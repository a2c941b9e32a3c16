import ZnsBench.Core.ByteString

/-!
# The texts of `json.lua`

The load scripts read answers with `json.decode` and the library writes with
`json.encode`.  A Lua table is given here by its entries in the order `pairs`
goes through them.  Number formatting and parsing and the length operator are
Lua's own and are parameters; everything else follows the script.

A parser is given the text that is left; the position in the whole text,
which the messages name, is where that rest begins.
-/

namespace ZnsBench.Workload.Json

open ZnsBench.Core.ByteString

/--
The keys of a Lua table: whole numbers, strings, and anything else.  A number
that is no whole number is `other` too.  `encode` reports both as mixed keys,
where `json.lua` calls an array with such a number sparse.
-/
inductive Key where
  | index (position : Int)
  | name (text : Bytes)
  | other (label : Nat)
  deriving DecidableEq, Repr

/-- Lua values, without references from a table to itself. -/
inductive Value (Number : Type) where
  | null
  | boolean (truth : Bool)
  | number (value : Number)
  | string (text : Bytes)
  | table (entries : List (Key × Value Number))
  /-- A value of a type that has no text, such as a function. -/
  | foreign (type : Bytes)

/-- What the script leaves to Lua. -/
structure Lua (Number : Type) where
  tonumber : Bytes → Option Number
  /-- `tonumber` with base 16. -/
  tonumberHex : Bytes → Option Int
  /-- `string.format("%.14g", ...)`. -/
  format : Number → Bytes
  tostring : Number → Bytes
  /-- Neither NaN nor an infinity. -/
  isFinite : Number → Bool
  /-- The operator `#` on a table. -/
  length : List (Key × Value Number) → Nat

/-- The errors raised by the script and by Lua. -/
inductive Failure where
  /-- `decode_error`. -/
  | decode (message : Bytes) (line col : Nat)
  /-- `error` with a message. -/
  | raised (message : Bytes)
  /-- Lua compares nil with a number. -/
  | comparesNil
  /-- Lua does arithmetic on nil. -/
  | arithmeticOnNil
  /-- `string.char` is given a number that is not a byte. -/
  | badArgument
  /-- The depth of the model is used up. -/
  | depth
  deriving DecidableEq, Repr

variable {Number : Type} (lua : Lua Number)

/-! ## Encode -/

/-- The two sides of `escape_char_map`. -/
def escapeCharMap : List (UInt8 × UInt8) :=
  [(92, 92), (34, 34), (8, 98), (12, 102), (10, 110), (13, 114), (9, 116)]

/-- A hexadecimal digit, as `%x` prints it. -/
def hexDigit (value : UInt8) : UInt8 :=
  if value < 10 then 48 + value else 87 + value

/-- `escape_char` -/
def escapeChar (char : UInt8) : Bytes :=
  match escapeCharMap.lookup char with
  | some letter => [92, letter]
  | none => [92, 117, 48, 48, hexDigit (char / 16), hexDigit (char % 16)]

/-- The characters of the pattern `[%z\1-\31\\"]`. -/
def isSpecial (char : UInt8) : Bool :=
  char < 32 || char == 92 || char == 34

/-- `encode_string` -/
def encodeString (text : Bytes) : Bytes :=
  34 :: (text.flatMap fun char =>
    if isSpecial char then escapeChar char else [char]) ++ [34]

/-- `encode_number` -/
def encodeNumber (value : Number) : Except Failure Bytes :=
  if lua.isFinite value then
    .ok (lua.format value)
  else
    .error (.raised
      (ascii "unexpected number value '" ++ lua.tostring value ++
        ascii "'"))

/-- `table.concat` with commas. -/
def concat : List Bytes → Bytes
  | [] => []
  | [text] => text
  | text :: rest => text ++ 44 :: concat rest

/-- The values `ipairs` goes through, from a position on. -/
def ipairs {Item : Type} (entries : List (Key × Item)) :
    Nat → Nat → List Item
  | 0, _ => []
  | left + 1, position =>
      match entries.lookup (.index position) with
      | none => []
      | some value => value :: ipairs entries left (position + 1)

/-- Keys that the array loop of `encode_table` accepts. -/
def Key.isNumber : Key → Bool
  | .index _ => true
  | _ => false

/-- The error of `encode_table` for keys of different types. -/
def mixedKeys : Failure :=
  .raised (ascii "invalid table: mixed or invalid key types")

/-- A table with the texts of its values, written as an array. -/
def encodeArray (length : Nat)
    (entries : List (Key × Except Failure Bytes)) : Except Failure Bytes := do
  if entries.any fun entry => !entry.1.isNumber then
    throw mixedKeys
  if entries.length ≠ length then
    throw (.raised (ascii "invalid table: sparse array"))
  let texts ← (ipairs entries entries.length 1).mapM id
  return 91 :: concat texts ++ [93]

/-- A key and the text of its value in an object. -/
def encodeMember (entry : Key × Except Failure Bytes) :
    Except Failure Bytes :=
  match entry.1 with
  | .name text => entry.2.map fun value => encodeString text ++ 58 :: value
  | _ => .error mixedKeys

/-- A table with the texts of its values, written as an object. -/
def encodeObject (entries : List (Key × Except Failure Bytes)) :
    Except Failure Bytes := do
  let texts ← entries.mapM encodeMember
  return 123 :: concat texts ++ [125]

/-- `encode_table` from the texts of the values. -/
def encodeTable (length : Nat)
    (entries : List (Key × Except Failure Bytes)) : Except Failure Bytes :=
  if (entries.lookup (.index 1)).isSome || entries.isEmpty then
    encodeArray length entries
  else
    encodeObject entries

mutual

/-- `encode`, and `json.encode` with it. -/
def encode : Value Number → Except Failure Bytes
  | .null => .ok (ascii "null")
  | .boolean truth => .ok (ascii (if truth then "true" else "false"))
  | .number value => encodeNumber lua value
  | .string text => .ok (encodeString text)
  | .table entries => encodeTable (lua.length entries) (encodeEntries entries)
  | .foreign type =>
      .error (.raised (ascii "unexpected type '" ++ type ++ ascii "'"))

/-- The entries of a table with the texts of their values. -/
def encodeEntries :
    List (Key × Value Number) → List (Key × Except Failure Bytes)
  | [] => []
  | (key, value) :: rest => (key, encode value) :: encodeEntries rest

end

/-! ## Decode -/

/-- `space_chars` -/
def isSpace (char : UInt8) : Bool :=
  char == 32 || char == 9 || char == 13 || char == 10

/-- `delim_chars` -/
def isDelim (char : UInt8) : Bool :=
  isSpace char || char == 93 || char == 125 || char == 44

/-- `escape_chars` but for the `u`, which is looked at before. -/
def isEscape (char : UInt8) : Bool :=
  [92, 47, 34, 98, 102, 110, 114, 116].contains char

/-- `next_char` past the white space. -/
def skip (text : Bytes) : Bytes :=
  text.dropWhile isSpace

/-- The line and column that `decode_error` counts. -/
def lineAndCol (str : Bytes) : Nat → Nat × Nat
  | 0 => (1, 1)
  | before + 1 =>
      let (line, col) := lineAndCol str before
      if str[before]? = some 10 then (line + 1, 1) else (line, col + 1)

/-- `decode_error` at a position in the whole text. -/
def decodeError (str : Bytes) (idx : Nat) (message : Bytes) : Failure :=
  let (line, col) := lineAndCol str (idx - 1)
  .decode message line col

/-- The position in the whole text at which a rest begins. -/
def idxOf (str rest : Bytes) : Nat :=
  str.length - rest.length + 1

/-- `codepoint_to_utf8`. -/
def codepointToUtf8 (codepoint : Int) : Except Failure Bytes :=
  if codepoint < 0 then
    .error .badArgument
  else
    let n := codepoint.toNat
    if n ≤ 0x7f then
      .ok [UInt8.ofNat n]
    else if n ≤ 0x7ff then
      .ok [UInt8.ofNat (n / 64 + 192), UInt8.ofNat (n % 64 + 128)]
    else if n ≤ 0xffff then
      .ok
        [UInt8.ofNat (n / 4096 + 224), UInt8.ofNat (n % 4096 / 64 + 128),
          UInt8.ofNat (n % 64 + 128)]
    else if n ≤ 0x10ffff then
      .ok
        [UInt8.ofNat (n / 262144 + 240),
          UInt8.ofNat (n % 262144 / 4096 + 128),
          UInt8.ofNat (n % 4096 / 64 + 128), UInt8.ofNat (n % 64 + 128)]
    else
      .error (.raised
        (ascii "invalid unicode codepoint '" ++
          (Nat.toDigits 16 n).map (fun digit => digit.toNat.toUInt8) ++
            ascii "'"))

/-- `parse_unicode_escape` -/
def parseUnicodeEscape (match_ : Bytes) : Except Failure Bytes :=
  let n1 := lua.tonumberHex (slice match_ 2 4)
  let n2 := lua.tonumberHex (slice match_ 8 4)
  match n1, n2 with
  | some n1, some n2 =>
      codepointToUtf8 ((n1 - 0xd800) * 0x400 + (n2 - 0xdc00) + 0x10000)
  | none, some _ => .error .arithmeticOnNil
  | some n1, none => codepointToUtf8 n1
  | none, none => .error .comparesNil

/--
`gsub` for a pattern that matches texts of one length, with the characters of
the last match that have still to be passed.
-/
def gsub (width : Nat) (accepts : Bytes → Bool)
    (replace : Bytes → Except Failure Bytes) :
    Nat → Bytes → Except Failure Bytes
  | _, [] => .ok []
  | passing + 1, _ :: rest => gsub width accepts replace passing rest
  | 0, char :: rest =>
      let found := (char :: rest).take width
      if found.length == width && accepts found then do
        let replaced ← replace found
        let later ← gsub width accepts replace (width - 1) rest
        return replaced ++ later
      else
        (gsub width accepts replace 0 rest).map (char :: ·)

/-- `[dD][89aAbB]` -/
def isHighSurrogate (first second : UInt8) : Bool :=
  (first == 68 || first == 100) &&
    [56, 57, 97, 65, 98, 66].contains second

/-- `\u[dD][89aAbB]..\u....` -/
def isSurrogatePair : Bytes → Bool
  | [92, 117, first, second, _, _, 92, 117, _, _, _, _] =>
      isHighSurrogate first second
  | _ => false

/-- `\u....` -/
def isUnicodeEscape : Bytes → Bool
  | 92 :: 117 :: _ => true
  | _ => false

/-- `\.` -/
def isBackslash : Bytes → Bool
  | 92 :: _ => true
  | _ => false

/-- `escape_char_map_inv`, which leaves what it does not know. -/
def replaceEscape : Bytes → Bytes
  | [92, 47] => [47]
  | [92, letter] =>
      match escapeCharMap.find? fun entry => entry.2 == letter with
      | some entry => [entry.1]
      | none => [92, letter]
  | other => other

/-- `%x` -/
def isHex (char : UInt8) : Bool :=
  (48 ≤ char && char ≤ 57) || (65 ≤ char && char ≤ 70) ||
    (97 ≤ char && char ≤ 102)

/-- `hex:find("%x%x%x%x")`, which need not begin at the first character. -/
def findsHex : Bytes → Bool
  | first :: second :: third :: fourth :: rest =>
      isHex second && isHex third && isHex fourth &&
        (isHex first ||
          match rest with
          | [] => false
          | fifth :: _ => isHex fifth)
  | _ => false

/-- `hex:find("^[dD][89aAbB]")` -/
def findsSurrogate : Bytes → Bool
  | first :: second :: _ => isHighSurrogate first second
  | _ => false

/-- The flags that `parse_string` keeps. -/
structure Escapes where
  unicode : Bool
  surrogate : Bool
  escape : Bool
  deriving DecidableEq, Repr

/--
The loop of `parse_string`, with whether the last character was a backslash.
It returns the flags, the raw string and the text behind the closing quote.
-/
def scan (str opening : Bytes) :
    Bool → Escapes → Bytes → Except Failure (Escapes × Bytes × Bytes)
  | _, _, [] =>
      .error (decodeError str (idxOf str opening)
        (ascii "expected closing quote for string"))
  | escaped, escapes, char :: rest =>
      let further (escaped : Bool) (escapes : Escapes) :=
        (scan str opening escaped escapes rest).map
          fun (all, raw, after) => (all, char :: raw, after)
      let here := idxOf str (char :: rest)
      if char < 32 then
        .error (decodeError str here (ascii "control character in string"))
      else if escaped then
        if char = 117 then
          let hex := rest.take 5
          if !findsHex hex then
            .error (decodeError str here
              (ascii "invalid unicode escape in string"))
          else if findsSurrogate hex then
            further false { escapes with surrogate := true }
          else
            further false { escapes with unicode := true }
        else if !isEscape char then
          .error (decodeError str here
            (ascii "invalid escape char '" ++ [char] ++
              ascii "' in string"))
        else
          further false { escapes with escape := true }
      else if char = 34 then
        .ok (escapes, [], rest)
      else
        further (char == 92) escapes

/-- The three replacements, each made when its flag is set. -/
def unescape (escapes : Escapes) (raw : Bytes) : Except Failure Bytes := do
  let paired ←
    if escapes.surrogate then
      gsub 12 isSurrogatePair (parseUnicodeEscape lua) 0 raw
    else
      pure raw
  let decoded ←
    if escapes.unicode then
      gsub 6 isUnicodeEscape (parseUnicodeEscape lua) 0 paired
    else
      pure paired
  if escapes.escape then
    gsub 2 isBackslash (fun found => pure (replaceEscape found)) 0 decoded
  else
    pure decoded

/-- `parse_string`, for a text that begins with a quote. -/
def parseString (str text : Bytes) : Except Failure (Bytes × Bytes) := do
  let (escapes, raw, rest) ←
    scan str text false ⟨false, false, false⟩ text.tail
  let string ← unescape lua escapes raw
  return (string, rest)

/-- The characters up to the next delimiter, and the rest. -/
def word (text : Bytes) : Bytes × Bytes :=
  text.span fun char => !isDelim char

/-- `parse_number` -/
def parseNumber (str text : Bytes) :
    Except Failure (Value Number × Bytes) :=
  match lua.tonumber (word text).1 with
  | some value => .ok (.number value, (word text).2)
  | none =>
      .error (decodeError str (idxOf str text)
        (ascii "invalid number '" ++ (word text).1 ++ ascii "'"))

/-- `literals` and `literal_map`. -/
def literal (text : Bytes) : Option (Value Number) :=
  if text = ascii "true" then
    some (.boolean true)
  else if text = ascii "false" then
    some (.boolean false)
  else if text = ascii "null" then
    some .null
  else
    none

/-- `parse_literal` -/
def parseLiteral (str text : Bytes) :
    Except Failure (Value Number × Bytes) :=
  match literal (word text).1 with
  | some value => .ok (value, (word text).2)
  | none =>
      .error (decodeError str (idxOf str text)
        (ascii "invalid literal '" ++ (word text).1 ++ ascii "'"))

/-- The value is nil. -/
def Value.isNull : Value Number → Bool
  | .null => true
  | _ => false

/-- The table with the items of an array; nil leaves no entry. -/
def arrayTable (items : List (Value Number)) :
    List (Key × Value Number) :=
  ((items.zipIdx 1).filter fun item => !item.1.isNull).map
    fun item => (.index item.2, item.1)

/-- `res[key] = val` for a string key. -/
def assign (entries : List (Key × Value Number)) (key : Bytes)
    (value : Value Number) : List (Key × Value Number) :=
  if value.isNull then
    entries.filter fun entry => entry.1 ≠ .name key
  else if entries.any fun entry => entry.1 = .name key then
    entries.map fun entry =>
      if entry.1 = .name key then (.name key, value) else entry
  else
    entries ++ [(.name key, value)]

/-- The table with the members of an object, assigned in their order. -/
def objectTable (members : List (Bytes × Value Number)) :
    List (Key × Value Number) :=
  members.foldl (fun entries member => assign entries member.1 member.2) []

/-- The first character of a number in `char_func_map`. -/
def startsNumber (char : UInt8) : Bool :=
  (48 ≤ char && char ≤ 57) || char == 45

/-- The first character of a literal in `char_func_map`. -/
def startsLiteral (char : UInt8) : Bool :=
  char == 116 || char == 102 || char == 110

mutual

/-- `parse`, to a given depth. -/
def parse (str : Bytes) : Nat → Bytes →
    Except Failure (Value Number × Bytes)
  | 0, _ => .error .depth
  | depth + 1, text =>
      match text with
      | [] =>
          .error (decodeError str (idxOf str text)
            (ascii "unexpected character ''"))
      | char :: rest =>
          if char = 34 then
            (parseString lua str text).map fun (string, rest) =>
              (.string string, rest)
          else if startsNumber char then
            parseNumber lua str text
          else if startsLiteral char then
            parseLiteral str text
          else if char = 91 then
            (parseArray str depth rest).map fun (items, rest) =>
              (.table (arrayTable items), rest)
          else if char = 123 then
            (parseObject str depth rest).map fun (members, rest) =>
              (.table (objectTable members), rest)
          else
            .error (decodeError str (idxOf str text)
              (ascii "unexpected character '" ++ [char] ++ ascii "'"))

/-- The loop of `parse_array`: the items and the text behind the bracket. -/
def parseArray (str : Bytes) : Nat → Bytes →
    Except Failure (List (Value Number) × Bytes)
  | 0, _ => .error .depth
  | depth + 1, text => do
      let text := skip text
      if text.head? = some 93 then
        return ([], text.tail)
      let (item, rest) ← parse str depth text
      let rest := skip rest
      if rest.head? = some 93 then
        return ([item], rest.tail)
      if rest.head? ≠ some 44 then
        -- the position has moved on before it is tested
        throw (decodeError str (idxOf str rest + 1)
          (ascii "expected ']' or ','"))
      let (items, rest) ← parseArray str depth rest.tail
      return (item :: items, rest)

/-- The loop of `parse_object`. -/
def parseObject (str : Bytes) : Nat → Bytes →
    Except Failure (List (Bytes × Value Number) × Bytes)
  | 0, _ => .error .depth
  | depth + 1, text => do
      let text := skip text
      if text.head? = some 125 then
        return ([], text.tail)
      if text.head? ≠ some 34 then
        throw (decodeError str (idxOf str text)
          (ascii "expected string for key"))
      let (key, rest) ← parseString lua str text
      let rest := skip rest
      if rest.head? ≠ some 58 then
        throw (decodeError str (idxOf str rest)
          (ascii "expected ':' after key"))
      let (value, rest) ← parse str depth (skip rest.tail)
      let rest := skip rest
      if rest.head? = some 125 then
        return ([(key, value)], rest.tail)
      if rest.head? ≠ some 44 then
        throw (decodeError str (idxOf str rest + 1)
          (ascii "expected '\x7d' or ','"))
      let (members, rest) ← parseObject str depth rest.tail
      return ((key, value) :: members, rest)

end

/--
`json.decode`.  No call is deeper than twice the number of characters it has
left, so the depth given here is never used up.
-/
def decode (str : Bytes) : Except Failure (Value Number) := do
  let (value, rest) ← parse lua str (2 * str.length + 2) (skip str)
  let rest := skip rest
  if rest ≠ [] then
    throw (decodeError str (idxOf str rest) (ascii "trailing garbage"))
  return value

end ZnsBench.Workload.Json

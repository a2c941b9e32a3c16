import ZnsBench.Core.ByteString

/-!
# Short options of a command line

`getopt` walks the words of an argument vector.  A word that begins with a
dash holds a cluster of option letters; a letter that requires an argument
takes the rest of its word or, when nothing is left of it, the next word.
Words that are no options are passed over, and a double dash ends the scan.
An unknown letter, or an argument that is missing, is reported as `?`.

Option strings here have no optional arguments and no leading flag.  A vector
that spells its options out, each in words of its own, is scanned back
exactly.
-/

namespace ZnsBench.Core.Getopt

open ZnsBench.Core.ByteString

/-- `-` -/
def dash : UInt8 := 45

/-- `:` -/
def colon : UInt8 := 58

/-- `?` -/
def questionMark : UInt8 := 63

/-- The value that `getopt` returns, and `optarg`. -/
structure Found where
  op : UInt8
  optarg : Option Bytes
  deriving DecidableEq, Repr

/-- Whether a letter of the option string requires an argument. -/
def requiresArgument (optstring : Bytes) (letter : UInt8) : Option Bool :=
  if letter = colon then
    none
  else
    match optstring.dropWhile (· ≠ letter) with
    | [] => none
    | _ :: after => some (after.head? = some colon)

/--
The options of one cluster, and its last letter when that one waits for an
argument in the next word.
-/
def scanCluster (optstring : Bytes) :
    Bytes → List Found × Option UInt8
  | [] => ([], none)
  | letter :: rest =>
      match requiresArgument optstring letter with
      | some true =>
          if rest = [] then
            ([], some letter)
          else
            ([⟨letter, some rest⟩], none)
      | some false =>
          let later := scanCluster optstring rest
          (⟨letter, none⟩ :: later.1, later.2)
      | none =>
          let later := scanCluster optstring rest
          (⟨questionMark, none⟩ :: later.1, later.2)

/-- The values that `getopt` returns one after another, up to the `-1`. -/
def getopt (optstring : Bytes) : List Bytes → List Found
  | [] => []
  | word :: words =>
      if word = [dash, dash] then
        []
      else
        match word with
        | first :: letter :: letters =>
            if first = dash then
              match scanCluster optstring (letter :: letters) with
              | (found, none) => found ++ getopt optstring words
              | (found, some waiting) =>
                  match words with
                  | [] => found ++ [⟨questionMark, none⟩]
                  | optarg :: later =>
                      found ++ ⟨waiting, some optarg⟩ ::
                        getopt optstring later
            else
              getopt optstring words
        | _ => getopt optstring words

/-! ## Options spelled out -/

/-- An option in a word of its own, its argument in the next one. -/
def spelled (found : Found) : List Bytes :=
  [dash, found.op] :: found.optarg.toList

/-- The option string has this letter, with or without an argument. -/
def Valid (optstring : Bytes) (found : Found) : Prop :=
  found.op ≠ dash ∧
    requiresArgument optstring found.op = some found.optarg.isSome

instance (optstring : Bytes) (found : Found) :
    Decidable (Valid optstring found) :=
  inferInstanceAs (Decidable (_ ∧ _))

theorem getopt_spelled_append
    {optstring : Bytes} {found : Found} (valid : Valid optstring found)
    (words : List Bytes) :
    getopt optstring (spelled found ++ words) =
      found :: getopt optstring words := by
  rcases found with ⟨op, optarg⟩
  rcases valid with ⟨notDash, required⟩
  have notEnd : ¬ [dash, op] = [dash, dash] := by
    simpa using notDash
  cases optarg with
  | none =>
      have scanned :
          scanCluster optstring [op] = ([⟨op, none⟩], none) := by
        simp only [scanCluster, required, Option.isSome_none]
      simp only [spelled, Option.toList_none, List.cons_append,
        List.nil_append]
      rw [getopt, if_neg notEnd]
      simp only [↓reduceIte, scanned, List.cons_append, List.nil_append]
  | some argument =>
      have scanned : scanCluster optstring [op] = ([], some op) := by
        simp only [scanCluster, required, Option.isSome_some, ↓reduceIte]
      simp only [spelled, Option.toList_some, List.cons_append,
        List.nil_append]
      rw [getopt, if_neg notEnd]
      simp only [↓reduceIte, scanned, List.nil_append]

/-- Spelling options out and scanning them is the identity. -/
theorem getopt_flatMap_spelled
    {optstring : Bytes} {options : List Found}
    (valid : ∀ found ∈ options, Valid optstring found) :
    getopt optstring (options.flatMap spelled) = options := by
  induction options with
  | nil => rfl
  | cons found options induction =>
      rw [List.flatMap_cons,
        getopt_spelled_append (valid found List.mem_cons_self),
        induction fun later member =>
          valid later (List.mem_cons_of_mem _ member)]

end ZnsBench.Core.Getopt

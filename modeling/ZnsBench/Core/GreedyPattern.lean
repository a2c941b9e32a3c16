import Mathlib.Data.List.Basic

/-!
# Unanchored greedy patterns

A pattern is a list of repeated symbol classes, some of them captured.  It is
matched with backtracking: a repetition first takes the longest run of its
class and gives symbols back one by one while the rest of the pattern does not
match.  An unanchored search tries the pattern at every position of the
subject, from the left.

Two rules are enough to reason about such a search.  A match is sound: what
precedes it, the runs and what follows them make up the subject.  And where no
run can be continued by the symbol behind it, the first attempt succeeds and
nothing is ever given back.
-/

namespace ZnsBench.Core.GreedyPattern

universe u v

variable {Symbol : Type u} {Result : Type v}

/-- `*` and `+`. -/
inductive Repetition where
  | star
  | plus
  deriving DecidableEq, Repr

/-- A repeated class, given by its test, inside a capture of its own or not. -/
structure Item (Symbol : Type u) where
  admits : Symbol → Bool
  repetition : Repetition
  captured : Bool

/-- The longest run of the class first, then the shorter ones. -/
def maxExpand
    (admits : Symbol → Bool) (after : List Symbol → Option Result) :
    List Symbol → Option (List Symbol × Result)
  | [] => (after []).map fun result => ([], result)
  | symbol :: rest =>
      let giveBack := (after (symbol :: rest)).map fun result => ([], result)
      if admits symbol then
        match maxExpand admits after rest with
        | some (run, result) => some (symbol :: run, result)
        | none => giveBack
      else
        giveBack

/-- One item, and what comes after it. -/
def Item.expand
    (item : Item Symbol) (after : List Symbol → Option Result)
    (subject : List Symbol) : Option (List Symbol × Result) :=
  match item.repetition, subject with
  | .star, _ => maxExpand item.admits after subject
  | .plus, [] => none
  | .plus, symbol :: rest =>
      if item.admits symbol then
        (maxExpand item.admits after rest).map fun found =>
          (symbol :: found.1, found.2)
      else
        none

/-- Match a pattern at the front of a subject; the captures in order. -/
def matchItems :
    List (Item Symbol) → List Symbol → Option (List (List Symbol))
  | [], _ => some []
  | item :: items, subject =>
      (item.expand (matchItems items) subject).map fun found =>
        if item.captured then found.1 :: found.2 else found.2

/-- Match a pattern at the first position where it does. -/
def search (items : List (Item Symbol)) :
    List Symbol → Option (List (List Symbol))
  | [] => matchItems items []
  | symbol :: rest =>
      match matchItems items (symbol :: rest) with
      | some captures => some captures
      | none => search items rest

/-! ## Soundness -/

/-- A run of a class. -/
def Admitted (admits : Symbol → Bool) (run : List Symbol) : Prop :=
  ∀ symbol ∈ run, admits symbol = true

instance (admits : Symbol → Bool) (run : List Symbol) :
    Decidable (Admitted admits run) :=
  inferInstanceAs (Decidable (∀ symbol ∈ run, admits symbol = true))

theorem admitted_nil (admits : Symbol → Bool) : Admitted admits [] :=
  fun _ member => absurd member List.not_mem_nil

@[simp]
theorem admitted_cons
    {admits : Symbol → Bool} {symbol : Symbol} {run : List Symbol} :
    Admitted admits (symbol :: run) ↔
      admits symbol = true ∧ Admitted admits run :=
  List.forall_mem_cons

/-- What is taken and given to the continuation is the subject. -/
theorem maxExpand_sound
    {admits : Symbol → Bool} {after : List Symbol → Option Result}
    {subject run : List Symbol} {result : Result}
    (found : maxExpand admits after subject = some (run, result)) :
    ∃ rest,
      subject = run ++ rest ∧
        Admitted admits run ∧ after rest = some result := by
  induction subject generalizing run result with
  | nil =>
      rw [maxExpand, Option.map_eq_some_iff] at found
      rcases found with ⟨_, matched, equal⟩
      cases equal
      exact ⟨[], rfl, admitted_nil admits, matched⟩
  | cons symbol subject induction =>
      -- Giving everything back leaves the empty run.
      have givenBack :
          (after (symbol :: subject)).map (fun result => ([], result)) =
              some (run, result) →
            ∃ rest,
              symbol :: subject = run ++ rest ∧
                Admitted admits run ∧ after rest = some result := by
        intro given
        rcases Option.map_eq_some_iff.mp given with ⟨_, matched, equal⟩
        cases equal
        exact ⟨symbol :: subject, rfl, admitted_nil admits, matched⟩
      rw [maxExpand] at found
      split at found
      · rename_i admitted
        split at found
        · rename_i longer later expanded
          cases found
          rcases induction expanded with ⟨rest, rfl, run, matched⟩
          exact ⟨rest, rfl, admitted_cons.mpr ⟨admitted, run⟩, matched⟩
        · exact givenBack found
      · exact givenBack found

/-- An item takes a run of its class, which `+` keeps from being empty. -/
theorem Item.expand_sound
    {item : Item Symbol} {after : List Symbol → Option Result}
    {subject run : List Symbol} {result : Result}
    (found : item.expand after subject = some (run, result)) :
    ∃ rest,
      subject = run ++ rest ∧
        Admitted item.admits run ∧
          (item.repetition = .plus → run ≠ []) ∧
            after rest = some result := by
  unfold Item.expand at found
  split at found
  · rename_i repetition
    rcases maxExpand_sound found with ⟨rest, equal, admitted, matched⟩
    exact ⟨rest, equal, admitted, by simp [repetition], matched⟩
  · cases found
  · split at found
    · rename_i symbol subject _ first
      rcases Option.map_eq_some_iff.mp found with
        ⟨⟨shorter, _⟩, expanded, equal⟩
      cases equal
      rcases maxExpand_sound expanded with ⟨rest, rfl, admitted, matched⟩
      exact
        ⟨rest, rfl, admitted_cons.mpr ⟨first, admitted⟩,
          fun _ => List.cons_ne_nil _ _, matched⟩
    · cases found

/-- A match of a longer pattern is a run and a match behind it. -/
theorem matchItems_cons_sound
    {item : Item Symbol} {items : List (Item Symbol)}
    {subject : List Symbol} {captures : List (List Symbol)}
    (found : matchItems (item :: items) subject = some captures) :
    ∃ run rest later,
      subject = run ++ rest ∧
        Admitted item.admits run ∧
          (item.repetition = .plus → run ≠ []) ∧
            matchItems items rest = some later := by
  rw [matchItems, Option.map_eq_some_iff] at found
  rcases found with ⟨⟨run, later⟩, expanded, _⟩
  rcases Item.expand_sound expanded with
    ⟨rest, equal, admitted, nonempty, matched⟩
  exact ⟨run, rest, later, equal, admitted, nonempty, matched⟩

/-- A search that succeeds has passed over a part of the subject. -/
theorem search_sound
    {items : List (Item Symbol)}
    {subject : List Symbol} {captures : List (List Symbol)}
    (found : search items subject = some captures) :
    ∃ skipped rest,
      subject = skipped ++ rest ∧
        matchItems items rest = some captures := by
  induction subject with
  | nil => exact ⟨[], [], rfl, found⟩
  | cons symbol subject induction =>
      rw [search] at found
      split at found
      · rename_i matched
        cases found
        exact ⟨[], symbol :: subject, rfl, matched⟩
      · rcases induction found with ⟨skipped, rest, rfl, matched⟩
        exact ⟨symbol :: skipped, rest, rfl, matched⟩

/-! ## Nothing is given back -/

/-- The class does not go on here. -/
def Stops (admits : Symbol → Bool) (rest : List Symbol) : Prop :=
  ∀ symbol ∈ rest.head?, admits symbol = false

theorem stops_nil (admits : Symbol → Bool) : Stops admits [] :=
  fun _ member => absurd member (Option.not_mem_none _)

theorem maxExpand_of_stops
    {admits : Symbol → Bool} {after : List Symbol → Option Result}
    {run rest : List Symbol} {result : Result}
    (admitted : Admitted admits run) (stops : Stops admits rest)
    (matched : after rest = some result) :
    maxExpand admits after (run ++ rest) = some (run, result) := by
  induction run with
  | nil =>
      cases rest with
      | nil =>
          rw [List.nil_append, maxExpand, matched, Option.map_some]
      | cons symbol rest =>
          have refused : admits symbol = false := stops symbol rfl
          rw [List.nil_append, maxExpand, matched, Option.map_some, refused]
          rfl
  | cons symbol run induction =>
      rw [admitted_cons] at admitted
      rw [List.cons_append, maxExpand, if_pos admitted.1,
        induction admitted.2]

theorem Item.expand_of_stops
    {item : Item Symbol} {after : List Symbol → Option Result}
    {run rest : List Symbol} {result : Result}
    (admitted : Admitted item.admits run)
    (nonempty : item.repetition = .plus → run ≠ [])
    (stops : Stops item.admits rest)
    (matched : after rest = some result) :
    item.expand after (run ++ rest) = some (run, result) := by
  rcases item with ⟨admits, repetition, captured⟩
  cases repetition with
  | star => exact maxExpand_of_stops admitted stops matched
  | plus =>
      cases run with
      | nil => exact absurd rfl (nonempty rfl)
      | cons symbol run =>
          have runs :
              admits symbol = true ∧ Admitted admits run :=
            admitted_cons.mp admitted
          have expanded :
              maxExpand admits after (run ++ rest) = some (run, result) :=
            maxExpand_of_stops runs.2 stops matched
          simp only [List.cons_append, Item.expand, runs.1, ↓reduceIte,
            expanded, Option.map_some]

/-- The first attempt succeeds when no run can be continued. -/
theorem matchItems_cons_of_stops
    {item : Item Symbol} {items : List (Item Symbol)}
    {run rest : List Symbol} {later : List (List Symbol)}
    (admitted : Admitted item.admits run)
    (nonempty : item.repetition = .plus → run ≠ [])
    (stops : Stops item.admits rest)
    (matched : matchItems items rest = some later) :
    matchItems (item :: items) (run ++ rest) =
      some (if item.captured then run :: later else later) := by
  rw [matchItems, Item.expand_of_stops admitted nonempty stops matched,
    Option.map_some]

/-- A search passes over symbols that a first `+` does not admit. -/
theorem search_append_of_refused
    {item : Item Symbol} {items : List (Item Symbol)}
    (plus : item.repetition = .plus)
    {skipped subject : List Symbol}
    (refused : ∀ symbol ∈ skipped, item.admits symbol = false) :
    search (item :: items) (skipped ++ subject) =
      search (item :: items) subject := by
  induction skipped with
  | nil => rfl
  | cons symbol skipped induction =>
      rw [List.forall_mem_cons] at refused
      have fails :
          matchItems (item :: items) (symbol :: (skipped ++ subject)) =
            none := by
        simp [matchItems, Item.expand, plus, refused.1]
      rw [List.cons_append, search, fails]
      exact induction refused.2

/-- A match at the front is the one that is found. -/
theorem search_of_matchItems
    {items : List (Item Symbol)}
    {subject : List Symbol} {captures : List (List Symbol)}
    (matched : matchItems items subject = some captures) :
    search items subject = some captures := by
  cases subject with
  | nil => exact matched
  | cons symbol subject => rw [search, matched]

end ZnsBench.Core.GreedyPattern

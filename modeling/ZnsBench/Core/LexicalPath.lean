import Mathlib.Data.List.Infix

/-!
# Paths and where they lead

A path is a sequence of names with separators between them.  Read from left
to right, a name goes one level down, a dot stays, and two dots go back up.
What a path leads to is the list of the names that are left; two dots that
find nothing to go back from are kept.
-/

namespace ZnsBench.Core.LexicalPath

universe u

variable {Symbol : Type u} [DecidableEq Symbol]

/-- Go on to one more name of a path. -/
def enter (dot : Symbol) (reached : List (List Symbol))
    (name : List Symbol) : List (List Symbol) :=
  if name = [] ∨ name = [dot] then
    reached
  else if name = [dot, dot] then
    if reached = [] ∨ reached.getLast? = some [dot, dot] then
      reached ++ [name]
    else
      reached.dropLast
  else
    reached ++ [name]

/-- The names of a path are entered one after the other. -/
def resolve (separator dot : Symbol) (path : List Symbol) :
    List (List Symbol) :=
  (path.splitOn separator).foldl (enter dot) []

variable {separator dot : Symbol}

theorem resolve_append (first second : List Symbol) :
    resolve separator dot (first ++ separator :: second) =
      (second.splitOn separator).foldl (enter dot)
        (resolve separator dot first) := by
  rw [resolve, List.splitOn_append_cons_self, List.foldl_append]
  rfl

/-- A separator at the end leads nowhere else. -/
@[simp]
theorem resolve_append_separator (path : List Symbol) :
    resolve separator dot (path ++ [separator]) =
      resolve separator dot path := by
  rw [resolve_append, List.splitOn_nil]
  rfl

/-- Without two dots a walk only goes down. -/
theorem exists_foldl_enter
    {names : List (List Symbol)} (down : [dot, dot] ∉ names)
    (reached : List (List Symbol)) :
    ∃ more, names.foldl (enter dot) reached = reached ++ more := by
  induction names generalizing reached with
  | nil => exact ⟨[], (List.append_nil reached).symm⟩
  | cons name names induction =>
      rw [List.mem_cons, not_or] at down
      have one : ∃ more, enter dot reached name = reached ++ more := by
        rw [enter, if_neg (Ne.symm down.1)]
        split
        · exact ⟨[], (List.append_nil reached).symm⟩
        · exact ⟨[name], rfl⟩
      rcases one with ⟨first, entered⟩
      rcases induction down.2 (reached ++ first) with ⟨more, walked⟩
      refine ⟨first ++ more, ?_⟩
      rw [List.foldl_cons, entered, walked, List.append_assoc]

omit [DecidableEq Symbol] in
theorem infix_intercalate
    {between name : List Symbol} {names : List (List Symbol)}
    (member : name ∈ names) : name <:+: between.intercalate names := by
  induction names with
  | nil => exact absurd member List.not_mem_nil
  | cons first names induction =>
      by_cases last : names = []
      · rw [last] at member ⊢
        rw [List.mem_singleton.mp member, List.intercalate_singleton]
      · rw [List.intercalate_cons_of_ne_nil last]
        rcases List.mem_cons.mp member with rfl | later
        · rw [List.append_assoc]
          exact (List.prefix_append _ _).isInfix
        · exact (induction later).trans (List.suffix_append _ _).isInfix

/-- A name of a path is a part of it. -/
theorem infix_of_mem_splitOn
    {path name : List Symbol} (member : name ∈ path.splitOn separator) :
    name <:+: path := by
  have joined : [separator].intercalate (path.splitOn separator) = path :=
    List.intercalate_splitOn separator
  rw [← joined]
  exact infix_intercalate member

/-- A path without two dots stays below where it begins. -/
theorem exists_resolve_append
    {path : List Symbol} (down : ¬ [dot, dot] <:+: path)
    (root : List Symbol) :
    ∃ more,
      resolve separator dot (root ++ separator :: path) =
        resolve separator dot root ++ more := by
  rw [resolve_append]
  exact exists_foldl_enter
    (fun member => down (infix_of_mem_splitOn member)) _

omit [DecidableEq Symbol] in
/-- Two dots do not arise where the second part begins with another symbol. -/
theorem not_infix_append
    {first second : List Symbol}
    (downFirst : ¬ [dot, dot] <:+: first)
    (downSecond : ¬ [dot, dot] <:+: second)
    (begins : second.head? ≠ some dot) :
    ¬ [dot, dot] <:+: first ++ second := by
  intro found
  rcases List.infix_append_iff_ne_nil.mp found with
    here | here | ⟨left, right, leftSome, rightSome, parts, -, starts⟩
  · exact downFirst here
  · exact downSecond here
  · rcases List.exists_cons_of_ne_nil rightSome with ⟨head, tail, rfl⟩
    have isDot : head = dot := by
      have inside : head ∈ [dot, dot] := by
        rw [parts]
        exact List.mem_append_right left List.mem_cons_self
      simpa using inside
    rcases starts with ⟨rest, rfl⟩
    exact begins (congrArg some isDot)

end ZnsBench.Core.LexicalPath

import Mathlib.Data.List.Forall2
import Mathlib.Data.List.Induction
import Mathlib.Data.List.Nodup
import Mathlib.Data.List.Perm.Basic
import ZnsBench.Workload.Json

/-!
# The tables of arrays and objects

Lua does not say in which order `pairs` goes through a table, so a table is
described by what stands at its keys: an item of an array at its position, the
value that a key of an object was given last, and no entry where that is nil.
The tables that the decoder builds are such tables, and any two of them are
the same but for the order of their entries.
-/

namespace ZnsBench.Workload.Json

open ZnsBench.Core.ByteString

variable {Number : Type}

/-! ## The rules -/

/-- The items that are not nil stand at their positions, counted from one. -/
structure ArrayEntries (items : List (Value Number))
    (entries : List (Key × Value Number)) : Prop where
  nodup : (entries.map Prod.fst).Nodup
  mem_iff (key : Key) (value : Value Number) :
    (key, value) ∈ entries ↔
      ∃ position, items[position]? = some value ∧ value ≠ .null ∧
        key = .index (position + 1 : Nat)

/-- A value is the last that a name is given. -/
def GivenLast (members : List (Bytes × Value Number)) (name : Bytes)
    (value : Value Number) : Prop :=
  ∃ before after,
    members = before ++ (name, value) :: after ∧
      ∀ member ∈ after, member.1 ≠ name

/-- The values that names are given last stand there if they are not nil. -/
structure ObjectEntries (members : List (Bytes × Value Number))
    (entries : List (Key × Value Number)) : Prop where
  nodup : (entries.map Prod.fst).Nodup
  mem_iff (key : Key) (value : Value Number) :
    (key, value) ∈ entries ↔
      ∃ name, GivenLast members name value ∧ value ≠ .null ∧
        key = .name name

/-- The same value but for the order of the entries of its tables. -/
inductive Same : Value Number → Value Number → Prop where
  | refl (value : Value Number) : Same value value
  | table {entries others : List (Key × Value Number)}
      (pairs : List (Key × Value Number × Value Number)) :
      entries.Perm (pairs.map fun pair => (pair.1, pair.2.1)) →
      others.Perm (pairs.map fun pair => (pair.1, pair.2.2)) →
      (∀ pair ∈ pairs, Same pair.2.1 pair.2.2) →
      Same (.table entries) (.table others)

@[simp]
theorem isNull_eq_true_iff {value : Value Number} :
    value.isNull = true ↔ value = .null := by
  cases value with
  | null => exact ⟨fun _ => rfl, fun _ => rfl⟩
  | _ => exact ⟨fun same => Bool.noConfusion same, fun same => by cases same⟩

@[simp]
theorem isNull_eq_false_iff {value : Value Number} :
    value.isNull = false ↔ value ≠ .null := by
  rw [Ne, ← isNull_eq_true_iff, Bool.not_eq_true]

theorem Same.isNull_eq
    {value other : Value Number} (same : Same value other) :
    value.isNull = other.isNull := by
  cases same with
  | refl => rfl
  | table => rfl

/-! ## Arrays -/

/-- The items of an array with their positions. -/
def numbered {Item : Type} (items : List Item) : List (Key × Item) :=
  (items.zipIdx 1).map fun item => (.index item.2, item.1)

theorem nodup_keys_numbered {Item : Type} (items : List Item) :
    ((numbered items).map Prod.fst).Nodup := by
  have keys :
      (numbered items).map Prod.fst =
        ((items.zipIdx 1).map Prod.snd).map
          fun position : Nat => Key.index position := by
    rw [numbered, List.map_map, List.map_map]
    rfl
  rw [keys, List.zipIdx_map_snd]
  refine List.Nodup.map ?_ List.nodup_range'
  intro first second same
  exact Int.ofNat.inj (Key.index.inj same)

theorem arrayTable_sublist (items : List (Value Number)) :
    (arrayTable items).Sublist (numbered items) :=
  List.Sublist.map _ List.filter_sublist

/-- The decoder's table of an array follows the rule. -/
theorem arrayEntries_arrayTable (items : List (Value Number)) :
    ArrayEntries items (arrayTable items) where
  nodup :=
    ((arrayTable_sublist items).map Prod.fst).nodup
      (nodup_keys_numbered items)
  mem_iff := by
    intro key value
    rw [arrayTable, List.mem_map]
    constructor
    · rintro ⟨⟨item, position⟩, listed, same⟩
      cases same
      rcases List.mem_filter.mp listed with ⟨found, present⟩
      rw [List.mk_mem_zipIdx_iff_le_and_getElem?_sub] at found
      refine ⟨position - 1, found.2,
        isNull_eq_false_iff.mp ((Bool.not_eq_true' _).mp present), ?_⟩
      rw [Nat.sub_add_cancel found.1]
    · rintro ⟨position, found, present, rfl⟩
      refine ⟨(value, position + 1), List.mem_filter.mpr ⟨?_, ?_⟩, rfl⟩
      · rw [List.mk_mem_zipIdx_iff_le_and_getElem?_sub]
        exact ⟨Nat.le_add_left 1 position, found⟩
      · exact (Bool.not_eq_true' _).mpr (isNull_eq_false_iff.mpr present)

/-- Tables with the same entries, each with keys of its own. -/
theorem perm_of_mem_iff
    {entries others : List (Key × Value Number)}
    (nodup : (entries.map Prod.fst).Nodup)
    (otherNodup : (others.map Prod.fst).Nodup)
    (same : ∀ key value, (key, value) ∈ entries ↔ (key, value) ∈ others) :
    entries.Perm others :=
  (List.perm_ext_iff_of_nodup (List.Nodup.of_map _ nodup)
    (List.Nodup.of_map _ otherNodup)).mpr fun entry => same entry.1 entry.2

theorem ArrayEntries.perm
    {items : List (Value Number)} {entries others : List (Key × Value Number)}
    (first : ArrayEntries items entries)
    (second : ArrayEntries items others) : entries.Perm others :=
  perm_of_mem_iff first.nodup second.nodup fun key value =>
    (first.mem_iff key value).trans (second.mem_iff key value).symm

/-! ## Objects -/

/-- A further member is the last of its name and of no other. -/
@[simp]
theorem givenLast_append_singleton
    {members : List (Bytes × Value Number)} {name other : Bytes}
    {value given : Value Number} :
    GivenLast (members ++ [(other, given)]) name value ↔
      (name = other ∧ value = given) ∨
        (name ≠ other ∧ GivenLast members name value) := by
  constructor
  · rintro ⟨before, after, split, later⟩
    rcases List.eq_nil_or_concat' after with rfl | ⟨after, last, rfl⟩
    · cases (List.append_inj_right' split rfl)
      exact Or.inl ⟨rfl, rfl⟩
    · rw [← List.cons_append, ← List.append_assoc] at split
      rcases List.append_inj' split rfl with ⟨front, back⟩
      cases back
      refine Or.inr ⟨fun same => ?_, before, after, front, fun member inside =>
        later member (List.mem_append_left _ inside)⟩
      exact later _ (List.mem_append_right _ List.mem_cons_self) same.symm
  · rintro (⟨rfl, rfl⟩ | ⟨differs, before, after, rfl, later⟩)
    · exact ⟨members, [], rfl, List.forall_mem_nil _⟩
    · refine ⟨before, after ++ [(other, given)], ?_, fun member inside => ?_⟩
      · rw [List.append_assoc, List.cons_append]
      · rcases List.mem_append.mp inside with inside | inside
        · exact later member inside
        · cases List.mem_singleton.mp inside
          exact Ne.symm differs

/-- What stands in a table after an assignment. -/
@[simp]
theorem mem_assign_iff
    {entries : List (Key × Value Number)} {name : Bytes}
    {given : Value Number} {key : Key} {value : Value Number} :
    (key, value) ∈ assign entries name given ↔
      (key = .name name ∧ value = given ∧ given ≠ .null) ∨
        (key ≠ .name name ∧ (key, value) ∈ entries) := by
  rw [assign]
  split_ifs with null present
  · rw [isNull_eq_true_iff] at null
    rw [List.mem_filter, decide_eq_true_eq]
    constructor
    · rintro ⟨inside, differs⟩
      exact Or.inr ⟨differs, inside⟩
    · rintro (⟨_, _, notNull⟩ | ⟨differs, inside⟩)
      · exact absurd null notNull
      · exact ⟨inside, differs⟩
  · rw [isNull_eq_true_iff] at null
    rw [List.mem_map]
    constructor
    · rintro ⟨entry, inside, same⟩
      split_ifs at same with equal
      · cases same
        exact Or.inl ⟨rfl, rfl, null⟩
      · cases same
        exact Or.inr ⟨equal, inside⟩
    · rintro (⟨rfl, rfl, _⟩ | ⟨differs, inside⟩)
      · rcases List.any_eq_true.mp present with ⟨entry, inside, equal⟩
        exact ⟨entry, inside, if_pos (of_decide_eq_true equal)⟩
      · exact ⟨_, inside, if_neg differs⟩
  · rw [isNull_eq_true_iff] at null
    rw [List.mem_append, List.mem_singleton]
    have absent : ∀ entry ∈ entries, entry.1 ≠ .name name :=
      fun entry inside same => present
        (List.any_eq_true.mpr ⟨entry, inside, decide_eq_true same⟩)
    constructor
    · rintro (inside | same)
      · exact Or.inr ⟨absent _ inside, inside⟩
      · cases same
        exact Or.inl ⟨rfl, rfl, null⟩
    · rintro (⟨rfl, rfl, _⟩ | ⟨_, inside⟩)
      · exact Or.inr rfl
      · exact Or.inl inside

theorem nodup_keys_assign
    {entries : List (Key × Value Number)}
    (nodup : (entries.map Prod.fst).Nodup) (name : Bytes)
    (given : Value Number) :
    ((assign entries name given).map Prod.fst).Nodup := by
  rw [assign]
  split_ifs with null present
  · exact (List.filter_sublist.map Prod.fst).nodup nodup
  · have keys :
        (entries.map fun entry =>
            if entry.1 = .name name then (.name name, given) else entry).map
              Prod.fst =
          entries.map Prod.fst := by
      rw [List.map_map]
      refine List.map_congr_left fun entry _ => ?_
      rw [Function.comp_apply]
      split_ifs with equal
      · exact equal.symm
      · rfl
    rw [keys]
    exact nodup
  · rw [List.map_append, List.map_singleton]
    refine nodup.append (List.nodup_singleton _) ?_
    rw [List.disjoint_singleton]
    intro inside
    rcases List.mem_map.mp inside with ⟨entry, listed, same⟩
    exact present (List.any_eq_true.mpr ⟨entry, listed, decide_eq_true same⟩)

/-- An assignment makes a further member the last of its name. -/
theorem ObjectEntries.assign
    {members : List (Bytes × Value Number)}
    {entries : List (Key × Value Number)}
    (object : ObjectEntries members entries) (name : Bytes)
    (given : Value Number) :
    ObjectEntries (members ++ [(name, given)])
      (assign entries name given) where
  nodup := nodup_keys_assign object.nodup name given
  mem_iff := by
    intro key value
    rw [mem_assign_iff, object.mem_iff]
    constructor
    · rintro (⟨rfl, rfl, notNull⟩ | ⟨differs, other, last, notNull, rfl⟩)
      · exact ⟨name, givenLast_append_singleton.mpr (Or.inl ⟨rfl, rfl⟩),
          notNull, rfl⟩
      · refine ⟨other, givenLast_append_singleton.mpr (Or.inr ⟨?_, last⟩),
          notNull, rfl⟩
        exact fun same => differs (congrArg Key.name same)
    · rintro ⟨other, last, notNull, rfl⟩
      rcases givenLast_append_singleton.mp last with
        ⟨rfl, rfl⟩ | ⟨differs, last⟩
      · exact Or.inl ⟨rfl, rfl, notNull⟩
      · exact Or.inr ⟨fun same => differs (Key.name.inj same), other, last,
          notNull, rfl⟩

/-- The decoder's table of an object follows the rule. -/
theorem objectEntries_objectTable (members : List (Bytes × Value Number)) :
    ObjectEntries members (objectTable members) := by
  induction members using List.reverseRecOn with
  | nil =>
      refine ⟨List.nodup_nil, fun key value => ⟨fun inside => ?_, ?_⟩⟩
      · cases inside
      · rintro ⟨name, ⟨before, after, split, _⟩, _⟩
        exact absurd split.symm (List.append_ne_nil_of_right_ne_nil _
          (List.cons_ne_nil _ _))
  | append_singleton members member induction =>
      rw [objectTable, List.foldl_append]
      exact induction.assign member.1 member.2

theorem ObjectEntries.perm
    {members : List (Bytes × Value Number)}
    {entries others : List (Key × Value Number)}
    (first : ObjectEntries members entries)
    (second : ObjectEntries members others) : entries.Perm others :=
  perm_of_mem_iff first.nodup second.nodup fun key value =>
    (first.mem_iff key value).trans (second.mem_iff key value).symm

/-! ## Entries that are the same but for the order below them -/

/-- The same key and the same value. -/
def SameEntry (entry other : Key × Value Number) : Prop :=
  entry.1 = other.1 ∧ Same entry.2 other.2

/-- The same name and the same value. -/
def SameMember (member other : Bytes × Value Number) : Prop :=
  member.1 = other.1 ∧ Same member.2 other.2

theorem exists_pairs
    {entries others : List (Key × Value Number)}
    (same : List.Forall₂ SameEntry entries others) :
    ∃ pairs : List (Key × Value Number × Value Number),
      entries = pairs.map (fun pair => (pair.1, pair.2.1)) ∧
        others = pairs.map (fun pair => (pair.1, pair.2.2)) ∧
        ∀ pair ∈ pairs, Same pair.2.1 pair.2.2 := by
  induction same with
  | nil => exact ⟨[], rfl, rfl, List.forall_mem_nil _⟩
  | @cons entry other _ _ first _ induction =>
      rcases induction with ⟨pairs, rfl, rfl, values⟩
      rcases entry with ⟨key, value⟩
      rcases other with ⟨key', value'⟩
      rcases first with ⟨rfl, first⟩
      exact ⟨(key, value, value') :: pairs, rfl, rfl,
        List.forall_mem_cons.mpr ⟨first, values⟩⟩

theorem same_table
    {entries others ordered : List (Key × Value Number)}
    (same : List.Forall₂ SameEntry entries ordered)
    (perm : others.Perm ordered) :
    Same (.table entries) (.table others) := by
  rcases exists_pairs same with ⟨pairs, rfl, rfl, values⟩
  exact Same.table pairs (List.Perm.refl _) perm values

theorem sameEntry_arrayTable
    {items others : List (Value Number)}
    (same : List.Forall₂ Same items others) :
    List.Forall₂ SameEntry (arrayTable items) (arrayTable others) := by
  rw [arrayTable, arrayTable]
  generalize 1 = position
  induction same generalizing position with
  | nil => exact List.Forall₂.nil
  | @cons item other items others first _ induction =>
      have later := induction (position + 1)
      rw [List.zipIdx_cons, List.zipIdx_cons, List.filter_cons,
        List.filter_cons]
      dsimp only
      rw [first.isNull_eq]
      split_ifs
      · exact List.Forall₂.cons ⟨rfl, first⟩ later
      · exact later

theorem sameEntry_assign
    {entries others : List (Key × Value Number)} {value other : Value Number}
    (same : List.Forall₂ SameEntry entries others)
    (sameValue : Same value other) (name : Bytes) :
    List.Forall₂ SameEntry (assign entries name value)
      (assign others name other) := by
  have any :
      (entries.any fun entry => decide (entry.1 = .name name)) =
        others.any fun entry => decide (entry.1 = .name name) := by
    induction same with
    | nil => rfl
    | cons first _ induction =>
        rw [List.any_cons, List.any_cons, first.1, induction]
  rw [assign, assign, sameValue.isNull_eq, any]
  split_ifs with null present
  · refine List.rel_filter ?_ same
    intro entry other first
    dsimp only
    rw [first.1]
  · refine List.rel_map ?_ same
    intro entry other first
    dsimp only
    rw [first.1]
    split_ifs
    · exact ⟨rfl, sameValue⟩
    · exact first
  · exact List.rel_append same
      (List.Forall₂.cons ⟨rfl, sameValue⟩ List.Forall₂.nil)

theorem sameEntry_objectTable
    {members others : List (Bytes × Value Number)}
    (same : List.Forall₂ SameMember members others) :
    List.Forall₂ SameEntry (objectTable members) (objectTable others) := by
  refine List.rel_foldl ?_ List.Forall₂.nil same
  rintro entries entries' sameEntries ⟨name, value⟩ ⟨name', value'⟩
    ⟨sameName, sameValue⟩
  cases sameName
  exact sameEntry_assign sameEntries sameValue name

end ZnsBench.Workload.Json

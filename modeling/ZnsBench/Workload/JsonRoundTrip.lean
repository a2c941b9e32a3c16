import Mathlib.Tactic.Choose
import ZnsBench.Workload.JsonAcceptance

/-!
# Reading back what was written

A value that `json.encode` accepts is read back by `json.decode` as the same
value, up to the order in which `pairs` goes through its tables, if its
numbers and strings come back.  An array is written in the order of its
positions whatever order `pairs` has.
-/

namespace ZnsBench.Workload.Json

open ZnsBench.Core.ByteString ZnsBench.Core.Fallible

variable {Number : Type} {lua : Lua Number}

/-- What the manual says of the parts of Lua that are used. -/
structure Lawful (lua : Lua Number) : Prop where
  hex : ReadsHex lua
  /-- A table with values at the positions from one to `n` has length `n`. -/
  length :
    ∀ (items : List (Value Number)) (entries : List (Key × Value Number)),
      (∀ item ∈ items, item.isNull = false) →
        entries.Perm (arrayTable items) → lua.length entries = items.length

/-- A number that comes back from its fourteen digits. -/
structure Printable (lua : Lua Number) (value : Number) : Prop where
  isFinite : lua.isFinite value = true
  read : lua.tonumber (lua.format value) = some value
  inside : Undelimited (lua.format value)
  starts :
    ∃ char, (lua.format value).head? = some char ∧
      startsNumber char = true

/--
The values that can be written and read back.  Nil is not in a table, and a
table is an array without holes or an object with one member or more.
-/
inductive Regular (lua : Lua Number) : Value Number → Prop where
  | null : Regular lua .null
  | boolean (truth : Bool) : Regular lua (.boolean truth)
  | number {value : Number} :
      Printable lua value → Regular lua (.number value)
  | string {text : Bytes} : Faithful text → Regular lua (.string text)
  | array {entries : List (Key × Value Number)}
      {items : List (Value Number)} :
      entries.Perm (arrayTable items) →
      (∀ item ∈ items, item.isNull = false) →
      (∀ item ∈ items, Regular lua item) →
      Regular lua (.table entries)
  | object {members : List (Bytes × Value Number)} :
      members ≠ [] → (members.map Prod.fst).Nodup →
      (∀ member ∈ members,
        Faithful member.1 ∧ member.2.isNull = false) →
      (∀ member ∈ members, Regular lua member.2) →
      Regular lua
        (.table (members.map fun member => (.name member.1, member.2)))

/-- A value is written as a text that is read as the same value. -/
structure Written (lua : Lua Number) (value : Value Number) (text : Bytes)
    (back : Value Number) : Prop where
  encoded : encode lua value = .ok text
  same : Same value back
  isNull : back.isNull = value.isNull
  reads :
    ∀ rest, Ends rest → Reads lua asEntered (text ++ rest) (.value back) rest

/-! ## Tables -/

theorem encodeEntries_eq (entries : List (Key × Value Number)) :
    encodeEntries lua entries =
      entries.map fun entry => (entry.1, encode lua entry.2) := by
  induction entries with
  | nil => rw [encodeEntries, List.map_nil]
  | cons entry rest induction =>
      rw [encodeEntries, induction, List.map_cons]

theorem arrayTable_eq_numbered
    {items : List (Value Number)}
    (present : ∀ item ∈ items, item.isNull = false) :
    arrayTable items = numbered items := by
  rw [arrayTable, numbered, List.filter_eq_self.mpr]
  intro item member
  rw [present item.1 (List.fst_mem_of_mem_zipIdx member)]
  rfl

theorem map_numbered
    {Item Other : Type} (items : List Item) (change : Item → Other) :
    (numbered items).map (fun entry => (entry.1, change entry.2)) =
      numbered (items.map change) := by
  rw [numbered, numbered, List.zipIdx_map, List.map_map, List.map_map]
  rfl

@[simp]
theorem length_numbered {Item : Type} (items : List Item) :
    (numbered items).length = items.length := by
  rw [numbered, List.length_map, List.length_zipIdx]

@[simp]
theorem lookup_numbered
    {Item : Type} (items : List Item) (position : Nat) :
    (numbered items).lookup (.index (position + 1 : Nat)) =
      items[position]? := by
  have later (start : Nat) :
      ((items.zipIdx start).map fun item =>
          ((.index item.2 : Key), item.1)).lookup
        (.index (start + position : Nat)) = items[position]? := by
    induction items generalizing start position with
    | nil => rfl
    | cons item rest induction =>
        rw [List.zipIdx_cons, List.map_cons, List.lookup_cons]
        cases position with
        | zero => rw [Nat.add_zero, beq_self_eq_true]; rfl
        | succ position =>
            have other :
                ((.index (start + (position + 1) : Nat) : Key) ==
                  .index start) = false := by
              refine beq_eq_false_iff_ne.mpr fun same => ?_
              have equal := Key.index.inj same
              omega
            have shifted :
                start + (position + 1) = start + 1 + position := by
              omega
            rw [other, shifted, List.getElem?_cons_succ]
            exact induction position (start + 1)
  rw [numbered, Nat.add_comm]
  exact later 1

/-- What stands at a key does not depend on the order of the entries. -/
theorem lookup_eq_of_perm
    {Item : Type} {entries others : List (Key × Item)}
    (perm : entries.Perm others) (nodup : (entries.map Prod.fst).Nodup)
    (key : Key) : entries.lookup key = others.lookup key := by
  induction perm with
  | nil => rfl
  | cons entry _ induction =>
      rw [List.lookup_cons, List.lookup_cons,
        induction (List.nodup_cons.mp nodup).2]
  | swap first second rest =>
      have different : second.1 ≠ first.1 := by
        intro same
        refine (List.nodup_cons.mp nodup).1 ?_
        rw [same]
        exact List.mem_cons_self
      rw [List.lookup_cons, List.lookup_cons, List.lookup_cons,
        List.lookup_cons]
      cases isFirst : key == first.1 with
      | false => rfl
      | true =>
          have other : (key == second.1) = false := by
            rw [beq_iff_eq.mp isFirst]
            exact beq_eq_false_iff_ne.mpr (Ne.symm different)
          rw [other]
  | trans first _ left right =>
      rw [left nodup, right ((first.map Prod.fst).nodup_iff.mp nodup)]

/-- `ipairs` goes through the items in the order of their positions. -/
theorem ipairs_of_perm
    {Item : Type} {entries : List (Key × Item)} {items : List Item}
    (perm : entries.Perm (numbered items)) :
    ipairs entries entries.length 1 = items := by
  have nodup : (entries.map Prod.fst).Nodup :=
    (perm.map Prod.fst).nodup_iff.mpr (nodup_keys_numbered items)
  have rest (left position : Nat) :
      ipairs entries left (position + 1) =
        (items.drop position).take left := by
    induction left generalizing position with
    | zero => rw [ipairs, List.take_zero]
    | succ left induction =>
        rw [ipairs, lookup_eq_of_perm perm nodup, lookup_numbered]
        cases found : items[position]? with
        | none =>
            rw [List.drop_eq_nil_of_le (List.getElem?_eq_none_iff.mp found),
              List.take_nil]
        | some item =>
            rw [List.drop_eq_getElem?_toList_append, found]
            simp only [induction]
            rfl
  rw [rest entries.length 0, List.drop_zero, perm.length_eq,
    length_numbered, List.take_length]

/-! ## Arrays -/

theorem encode_array
    (lawful : Lawful lua) {entries : List (Key × Value Number)}
    {items : List (Value Number)} {text : Value Number → Bytes}
    (perm : entries.Perm (arrayTable items))
    (present : ∀ item ∈ items, item.isNull = false)
    (encoded : ∀ item ∈ items, encode lua item = .ok (text item)) :
    encode lua (.table entries) =
      .ok (91 :: concat (items.map text) ++ [93]) := by
  have length := lawful.length items entries present perm
  rw [arrayTable_eq_numbered present] at perm
  have texts :
      (encodeEntries lua entries).Perm
        (numbered (items.map (encode lua))) := by
    rw [encodeEntries_eq, ← map_numbered]
    exact perm.map _
  have size : (encodeEntries lua entries).length = items.length := by
    rw [texts.length_eq, length_numbered, List.length_map]
  have isArray :
      (((encodeEntries lua entries).lookup (.index 1)).isSome ||
        (encodeEntries lua entries).isEmpty) = true := by
    cases items with
    | nil =>
        rw [List.length_nil, List.length_eq_zero_iff] at size
        rw [size]
        rfl
    | cons item rest =>
        have nodup : ((encodeEntries lua entries).map Prod.fst).Nodup :=
          (texts.map Prod.fst).nodup_iff.mpr (nodup_keys_numbered _)
        rw [lookup_eq_of_perm texts nodup]
        rfl
  have keys :
      ((encodeEntries lua entries).any fun entry =>
        !entry.1.isNumber) = false := by
    refine List.any_eq_false.mpr fun entry member => ?_
    have listed := texts.mem_iff.mp member
    rw [numbered, List.mem_map] at listed
    rcases listed with ⟨item, _, rfl⟩
    exact Bool.false_ne_true
  have written :
      (items.map (encode lua)).mapM id = .ok (items.map text) :=
    mapM_map_eq_ok encoded
  rw [encode, encodeTable, if_pos isArray, encodeArray, keys, size, length]
  simp only [Bool.false_eq_true, if_false, ne_eq, not_true_eq_false]
  rw [← size, ipairs_of_perm texts, written]
  rfl

@[simp]
theorem concat_cons_cons (text other : Bytes) (rest : List Bytes) :
    concat (text :: other :: rest) =
      text ++ 44 :: concat (other :: rest) := rfl

/-- The items of an array are read one after the other. -/
theorem reads_items
    {items : List (Value Number)} {text : Value Number → Bytes}
    {back : Value Number → Value Number}
    (reads : ∀ item ∈ items, ∀ rest, Ends rest →
      Reads lua asEntered (text item ++ rest) (.value (back item)) rest)
    (rest : Bytes) :
    Reads lua asEntered (concat (items.map text) ++ 93 :: rest)
      (.items (items.map back)) rest := by
  have blank : Blank [] := List.forall_mem_nil _
  have closes : Ends (93 :: rest) := by
    rintro _ ⟨⟩
    decide
  induction items with
  | nil => exact Reads.noItem blank
  | cons item others induction =>
      have first := reads item List.mem_cons_self
      cases others with
      | nil =>
          have whole := Reads.lastItem blank (first _ closes) blank
          exact whole
      | cons other others =>
          have later := induction fun item member =>
            reads item (List.mem_cons_of_mem _ member)
          have comma (later : Bytes) : Ends (44 :: later) := by
            rintro _ ⟨⟩
            decide
          have whole := Reads.nextItem blank (first _ (comma _)) blank later
          rw [List.map_cons, List.map_cons, concat_cons_cons,
            List.append_assoc]
          exact whole

/-! ## Objects -/

theorem encode_object
    {members : List (Bytes × Value Number)}
    {text : Bytes × Value Number → Bytes} (some : members ≠ [])
    (encoded :
      ∀ member ∈ members, encode lua member.2 = .ok (text member)) :
    encode lua
        (.table (members.map fun member => (.name member.1, member.2))) =
      .ok
        (123 ::
            concat
              (members.map fun member =>
                encodeString member.1 ++ 58 :: text member) ++
          [125]) := by
  have texts :
      encodeEntries lua
          (members.map fun member => (.name member.1, member.2)) =
        members.map fun member => (.name member.1, encode lua member.2) := by
    rw [encodeEntries_eq, List.map_map]
    rfl
  have isObject :
      ¬ (((members.map fun member =>
            ((.name member.1 : Key), encode lua member.2)).lookup
          (.index 1)).isSome ||
        (members.map fun member =>
            ((.name member.1 : Key), encode lua member.2)).isEmpty) =
          true := by
    have absent :
        (members.map fun member =>
          ((.name member.1 : Key), encode lua member.2)).lookup
            (.index 1) = none := by
      refine List.lookup_eq_none_iff.mpr fun entry member => ?_
      rcases List.mem_map.mp member with ⟨_, _, rfl⟩
      rfl
    rw [absent, List.isEmpty_map, Option.isSome_none, Bool.false_or,
      List.isEmpty_iff]
    exact some
  have written :
      (members.map fun member =>
          ((.name member.1 : Key), encode lua member.2)).mapM
            encodeMember =
        .ok (members.map fun member =>
          encodeString member.1 ++ 58 :: text member) := by
    refine mapM_map_eq_ok fun member listed => ?_
    rw [encodeMember, encoded member listed]
    rfl
  rw [encode, texts, encodeTable, if_neg isObject, encodeObject, written]
  rfl

theorem readsKey_encodeString
    (hex : ReadsHex lua) {name : Bytes} (faithful : Faithful name)
    (rest : Bytes) :
    ReadsKey lua (encodeString name ++ 58 :: rest) name rest :=
  ⟨_, [], [], rfl, List.forall_mem_nil _, List.forall_mem_nil _,
    parseString_eq_ok_iff.mp
      (parseString_encodeString hex faithful [] (58 :: rest))⟩

theorem reads_members
    (hex : ReadsHex lua) {members : List (Bytes × Value Number)}
    {text : Bytes × Value Number → Bytes}
    {back : Bytes × Value Number → Value Number}
    (faithful : ∀ member ∈ members, Faithful member.1)
    (reads : ∀ member ∈ members, ∀ rest, Ends rest →
      Reads lua asEntered (text member ++ rest) (.value (back member)) rest)
    (rest : Bytes) :
    Reads lua asEntered
      (concat
          (members.map fun member =>
            encodeString member.1 ++ 58 :: text member) ++
        125 :: rest)
      (.members (members.map fun member => (member.1, back member)))
      rest := by
  have blank : Blank [] := List.forall_mem_nil _
  have closes : Ends (125 :: rest) := by
    rintro _ ⟨⟩
    decide
  induction members with
  | nil => exact Reads.noMember blank
  | cons member others induction =>
      have first := reads member List.mem_cons_self
      have key (rest : Bytes) :=
        readsKey_encodeString hex (faithful member List.mem_cons_self)
          rest
      cases others with
      | nil =>
          have whole := Reads.lastMember blank (key _) (first _ closes) blank
          rw [List.map_cons, List.map_nil, concat, List.append_assoc]
          exact whole
      | cons other others =>
          have later :=
            induction
              (fun item listed =>
                faithful item (List.mem_cons_of_mem _ listed))
              fun item listed => reads item (List.mem_cons_of_mem _ listed)
          have comma (later : Bytes) : Ends (44 :: later) := by
            rintro _ ⟨⟩
            decide
          have whole :=
            Reads.nextMember blank (key _) (first _ (comma _)) blank later
          rw [List.map_cons, List.map_cons, concat_cons_cons,
            List.append_assoc, List.append_assoc]
          exact whole

/-- Members with different names are kept in their order. -/
theorem objectTable_of_nodup
    {members : List (Bytes × Value Number)}
    (nodup : (members.map Prod.fst).Nodup)
    (present : ∀ member ∈ members, member.2.isNull = false) :
    objectTable members =
      members.map fun member => (.name member.1, member.2) := by
  have later (entries : List (Key × Value Number))
      (fresh : ∀ member ∈ members, ∀ entry ∈ entries,
        entry.1 ≠ .name member.1) :
      members.foldl
          (fun entries member => assign entries member.1 member.2)
          entries =
        entries ++ members.map fun member => (.name member.1, member.2) := by
    induction members generalizing entries with
    | nil => rw [List.foldl_nil, List.map_nil, List.append_nil]
    | cons member rest induction =>
        rcases List.nodup_cons.mp nodup with ⟨first, others⟩
        have new : (entries.any fun entry =>
            decide (entry.1 = .name member.1)) = false := by
          refine List.any_eq_false.mpr fun entry listed => ?_
          rw [decide_eq_true_eq]
          exact fresh member List.mem_cons_self entry listed
        have assigned :
            assign entries member.1 member.2 =
              entries ++ [(.name member.1, member.2)] := by
          rw [assign, present member List.mem_cons_self, new]
          rfl
        rw [List.foldl_cons, assigned,
          induction others fun other listed =>
            present other (List.mem_cons_of_mem _ listed)]
        · rw [List.append_assoc]
          rfl
        · intro other listed entry inside
          rcases List.mem_append.mp inside with old | last
          · exact fresh other (List.mem_cons_of_mem _ listed) entry old
          · cases List.mem_singleton.mp last
            intro same
            refine first ?_
            rw [Key.name.inj same]
            exact List.mem_map_of_mem listed
  exact later [] fun _ _ entry inside => absurd inside List.not_mem_nil

/-! ## Whole values -/

theorem same_array
    {entries : List (Key × Value Number)} {items : List (Value Number)}
    {back : Value Number → Value Number}
    (perm : entries.Perm (numbered items))
    (same : ∀ item ∈ items, Same item (back item)) :
    Same (.table entries) (.table (numbered (items.map back))) := by
  let pairs : List (Key × Value Number × Value Number) :=
    (items.zipIdx 1).map fun item => (.index item.2, item.1, back item.1)
  have before :
      pairs.map (fun pair => (pair.1, pair.2.1)) = numbered items := by
    rw [List.map_map]
    rfl
  have after :
      pairs.map (fun pair => (pair.1, pair.2.2)) =
        numbered (items.map back) := by
    rw [← map_numbered, numbered, List.map_map, List.map_map]
    rfl
  refine Same.table pairs ?_ ?_ fun pair member => ?_
  · rw [before]
    exact perm
  · rw [after]
  · rcases List.mem_map.mp member with ⟨item, listed, rfl⟩
    exact same item.1 (List.fst_mem_of_mem_zipIdx listed)

theorem same_object
    {members : List (Bytes × Value Number)}
    {back : Bytes × Value Number → Value Number}
    (same : ∀ member ∈ members, Same member.2 (back member)) :
    Same
      (.table (members.map fun member => (.name member.1, member.2)))
      (.table (members.map fun member => (.name member.1, back member))) := by
  refine Same.table
    (members.map fun member => (.name member.1, member.2, back member))
    ?_ ?_ fun pair member => ?_
  · rw [List.map_map]
    exact List.Perm.refl _
  · rw [List.map_map]
    exact List.Perm.refl _
  · rcases List.mem_map.mp member with ⟨one, listed, rfl⟩
    exact same one listed

theorem Written.array
    (lawful : Lawful lua) {entries : List (Key × Value Number)}
    {items : List (Value Number)} {text : Value Number → Bytes}
    {back : Value Number → Value Number}
    (perm : entries.Perm (arrayTable items))
    (present : ∀ item ∈ items, item.isNull = false)
    (written : ∀ item ∈ items, Written lua item (text item) (back item)) :
    Written lua (.table entries) (91 :: concat (items.map text) ++ [93])
      (.table (arrayTable (items.map back))) where
  encoded :=
    encode_array lawful perm present
      fun item member => (written item member).encoded
  same := by
    have backPresent : ∀ item ∈ items.map back, item.isNull = false := by
      intro item member
      rcases List.mem_map.mp member with ⟨old, listed, rfl⟩
      rw [(written old listed).isNull, present old listed]
    rw [arrayTable_eq_numbered present] at perm
    rw [arrayTable_eq_numbered backPresent]
    exact same_array perm fun item member => (written item member).same
  isNull := rfl
  reads := by
    intro rest _
    have inner :=
      reads_items (fun item member => (written item member).reads) rest
    rw [List.append_assoc]
    exact Reads.array inner rfl

theorem Written.object
    (hex : ReadsHex lua) {members : List (Bytes × Value Number)}
    {text : Bytes × Value Number → Bytes}
    {back : Bytes × Value Number → Value Number}
    (some : members ≠ []) (nodup : (members.map Prod.fst).Nodup)
    (names : ∀ member ∈ members,
      Faithful member.1 ∧ member.2.isNull = false)
    (written : ∀ member ∈ members,
      Written lua member.2 (text member) (back member)) :
    Written lua
      (.table (members.map fun member => (.name member.1, member.2)))
      (123 ::
          concat
            (members.map fun member =>
              encodeString member.1 ++ 58 :: text member) ++
        [125])
      (.table
        (objectTable (members.map fun member =>
          (member.1, back member)))) where
  encoded :=
    encode_object some fun member listed => (written member listed).encoded
  same := by
    have backNodup :
        ((members.map fun member => (member.1, back member)).map
          Prod.fst).Nodup := by
      rw [List.map_map]
      exact nodup
    have backPresent :
        ∀ member ∈ members.map fun member => (member.1, back member),
          member.2.isNull = false := by
      intro member listed
      rcases List.mem_map.mp listed with ⟨old, inside, rfl⟩
      exact (written old inside).isNull.trans (names old inside).2
    rw [objectTable_of_nodup backNodup backPresent, List.map_map]
    exact same_object fun member listed => (written member listed).same
  isNull := rfl
  reads := by
    intro rest _
    have inner :=
      reads_members hex (fun member listed => (names member listed).1)
        (fun member listed => (written member listed).reads) rest
    rw [List.append_assoc]
    exact Reads.object inner rfl

instance : Inhabited (Value Number) := ⟨.null⟩

/-- Every regular value is written and read as the same value. -/
theorem Regular.exists_written
    (lawful : Lawful lua) {value : Value Number}
    (regular : Regular lua value) :
    ∃ text back, Written lua value text back := by
  induction regular with
  | null =>
      refine ⟨ascii "null", .null, ?_, Same.refl _, rfl,
        fun rest ends => Reads.literal Literal.isNull ends⟩
      rw [encode]
  | boolean truth =>
      cases truth with
      | true =>
          refine ⟨ascii "true", .boolean true, ?_, Same.refl _, rfl,
            fun rest ends => Reads.literal Literal.isTrue ends⟩
          rw [encode]
          rfl
      | false =>
          refine ⟨ascii "false", .boolean false, ?_, Same.refl _, rfl,
            fun rest ends => Reads.literal Literal.isFalse ends⟩
          rw [encode]
          rfl
  | @number value printable =>
      rcases printable.starts with ⟨char, first, starts⟩
      refine ⟨lua.format value, .number value, ?_, Same.refl _, rfl,
        fun rest ends =>
          Reads.number first ((startsNumber_iff char).mp starts)
            printable.inside ends printable.read⟩
      rw [encode, encodeNumber, if_pos printable.isFinite]
  | @string text faithful =>
      refine ⟨encodeString text, .string text, ?_, Same.refl _, rfl,
        fun rest _ =>
          Reads.string (parseString_eq_ok_iff.mp
            (parseString_encodeString lawful.hex faithful [] rest))⟩
      rw [encode]
  | array perm present _ induction =>
      choose! text back written using induction
      exact ⟨_, _, Written.array lawful perm present written⟩
  | object some nodup names _ induction =>
      choose! text back written using induction
      exact ⟨_, _, Written.object lawful.hex some nodup names written⟩

/-- What is written for a regular value is read back as the same value. -/
theorem decode_reads_back
    (lawful : Lawful lua) {value : Value Number}
    (regular : Regular lua value) :
    ∃ text back,
      encode lua value = .ok text ∧ decode lua text = .ok back ∧
        Same value back := by
  rcases regular.exists_written lawful with ⟨text, back, written⟩
  have ends : Ends [] := by
    rintro _ ⟨⟩
  have reads := written.reads [] ends
  rw [List.append_nil] at reads
  refine ⟨text, back, written.encoded, ?_, written.same⟩
  exact decode_eq_ok_iff.mpr
    ⟨[], text, [], List.forall_mem_nil _, List.forall_mem_nil _, rfl,
      reads⟩

theorem lawful_wholeLua : Lawful wholeLua where
  hex := by
    refine ⟨fun digits length all => ?_, rfl⟩
    refine if_pos ⟨?_, all⟩
    rintro rfl
    cases length
  length := by
    intro items entries present perm
    change entries.length = items.length
    rw [perm.length_eq, arrayTable_eq_numbered present, length_numbered]

/-- `[true,7,"a\n"]`, with `pairs` in another order. -/
def sampleArray : Value Nat :=
  .table
    [(.index 2, .number 7), (.index 1, .boolean true),
      (.index 3, .string (ascii "a\n"))]

theorem faithful_of_none
    {text : Bytes} (none : text.any isLong = false) : Faithful text :=
  fun long => Bool.noConfusion (none.symm.trans long)

theorem regular_sampleArray : Regular wholeLua sampleArray := by
  have seven : Printable wholeLua 7 :=
    ⟨rfl, by decide, undelimited_of_all (by decide), 55, by decide, rfl⟩
  have items :
      ∀ item ∈ [Value.boolean true, .number 7, .string (ascii "a\n")],
        item.isNull = false ∧ Regular wholeLua item := by
    intro item member
    rcases List.mem_cons.mp member with rfl | member
    · exact ⟨rfl, Regular.boolean true⟩
    rcases List.mem_cons.mp member with rfl | member
    · exact ⟨rfl, Regular.number seven⟩
    rcases List.mem_singleton.mp member with rfl
    exact ⟨rfl, Regular.string (faithful_of_none (by decide))⟩
  exact Regular.array (List.Perm.swap _ _ _)
    (fun item member => (items item member).1)
    fun item member => (items item member).2

/-- `{"on":[true,7,"a\n"]}` -/
def sampleValue : Value Nat :=
  .table [(.name (ascii "on"), sampleArray)]

theorem regular_sampleValue : Regular wholeLua sampleValue := by
  have object :
      Regular wholeLua
        (.table
          ([(ascii "on", sampleArray)].map fun member =>
            (.name member.1, member.2))) := by
    refine Regular.object (List.cons_ne_nil _ _) (List.nodup_singleton _)
      (fun member listed => ?_) fun member listed => ?_
    · rcases List.mem_singleton.mp listed with rfl
      exact ⟨faithful_of_none (by decide), rfl⟩
    · rcases List.mem_singleton.mp listed with rfl
      exact regular_sampleArray
  exact object

theorem decode_reads_back_sample :
    ∃ text back,
      encode wholeLua sampleValue = .ok text ∧
        decode wholeLua text = .ok back ∧ Same sampleValue back :=
  decode_reads_back lawful_wholeLua regular_sampleValue

/-- An escaped backslash before a `u` is mistaken for an escape. -/
example :
    parseString wholeLua []
        (encodeString (ascii "\\u0041" ++ [1])) =
      .ok (ascii "\\A" ++ [1], []) := by
  decide +kernel

end ZnsBench.Workload.Json

import Mathlib.Data.Int.CardIntervalMod
import Mathlib.Data.List.Basic
import Mathlib.Data.List.Nodup

/-!
# Turns dealt around a circle

A row of turns is dealt from a deck when turn `i` goes to member `i` of the
deck, counted modulo its length.  In a row dealt from distinct members the
shares of any two members differ by at most one turn.
-/

namespace ZnsBench.Core.RoundRobin

universe u

variable {Member : Type u}

/-- The turns of member `member` among the first `turns` of a circle. -/
def share (size member turns : Nat) : Nat :=
  turns.count (· % size = member)

theorem share_eq
    {size member : Nat} (inside : member < size) (turns : Nat) :
    share size member turns =
      turns / size + if member < turns % size then 1 else 0 := by
  have residues :
      turns.count (· ≡ member [MOD size]) = share size member turns := by
    unfold share
    congr 1
    funext turn
    rw [Nat.ModEq, Nat.mod_eq_of_lt inside]
  rw [← residues, Nat.count_modEq_card turns (Nat.zero_lt_of_lt inside),
    Nat.mod_eq_of_lt inside]

/-- No member gets two turns more than another one. -/
theorem share_le_succ
    {size member other : Nat}
    (memberInside : member < size) (otherInside : other < size)
    (turns : Nat) :
    share size member turns ≤ share size other turns + 1 := by
  rw [share_eq memberInside, share_eq otherInside]
  split <;> split <;> omega

/-- After a whole round every member has had a turn. -/
theorem share_pos
    {size member turns : Nat}
    (inside : member < size) (round : size ≤ turns) :
    0 < share size member turns := by
  have whole : 0 < turns / size :=
    Nat.div_pos round (Nat.zero_lt_of_lt inside)
  rw [share_eq inside]
  omega

/-- The member after the last one is the first. -/
theorem succ_mod {size : Nat} (positive : 0 < size) (turn : Nat) :
    (turn + 1) % size =
      if turn % size + 1 < size then turn % size + 1 else 0 := by
  have below := Nat.mod_lt turn positive
  rw [Nat.add_mod]
  split
  · next inside =>
    have one : 1 % size = 1 := Nat.mod_eq_of_lt (by omega)
    rw [one, Nat.mod_eq_of_lt inside]
  · next outside =>
    have last : turn % size + 1 = size := by omega
    rcases Nat.lt_or_ge 1 size with several | single
    · have one : 1 % size = 1 := Nat.mod_eq_of_lt several
      rw [one, last, Nat.mod_self]
    · have unit : size = 1 := by omega
      rw [unit, Nat.mod_one]

/-! ## Rows -/

/-- The members of the first turns around a deck. -/
def deal (deck : List Member) (turns : Nat) : List Member :=
  (List.range turns).filterMap fun turn => deck[turn % deck.length]?

theorem deal_succ
    {deck : List Member} {turns : Nat} {member : Member}
    (next : deck[turns % deck.length]? = some member) :
    deal deck (turns + 1) = deal deck turns ++ [member] := by
  rw [deal, List.range_succ, List.filterMap_append, deal]
  congr 1
  exact List.filterMap_cons_some next

theorem length_deal
    {deck : List Member} (nonempty : deck ≠ []) (turns : Nat) :
    (deal deck turns).length = turns := by
  induction turns with
  | zero => rfl
  | succ turns induction =>
      have inside : turns % deck.length < deck.length :=
        Nat.mod_lt _ (List.length_pos_iff.mpr nonempty)
      rw [deal_succ (List.getElem?_eq_getElem inside), List.length_append,
        induction, List.length_singleton]

/-- Turn `i` went to member `i` of the deck, counted around. -/
def DealtFrom (deck row : List Member) : Prop :=
  ∀ turn < row.length, row[turn]? = deck[turn % deck.length]?

theorem dealtFrom_nil (deck : List Member) : DealtFrom deck [] :=
  fun _ before => absurd before (Nat.not_lt_zero _)

/-- The next turn goes to the next member. -/
theorem DealtFrom.append_singleton
    {deck row : List Member} (dealt : DealtFrom deck row) {member : Member}
    (next : deck[row.length % deck.length]? = some member) :
    DealtFrom deck (row ++ [member]) := by
  intro turn before
  rw [List.length_append, List.length_singleton] at before
  rcases Nat.lt_succ_iff_lt_or_eq.mp before with earlier | rfl
  · rw [List.getElem?_append_left earlier]
    exact dealt turn earlier
  · rw [List.getElem?_concat_length, next]

theorem DealtFrom.of_append
    {deck row rest : List Member} (dealt : DealtFrom deck (row ++ rest)) :
    DealtFrom deck row := by
  intro turn before
  have turnDealt := dealt turn
    (by rw [List.length_append]; exact Nat.lt_add_right _ before)
  rwa [List.getElem?_append_left before] at turnDealt

theorem DealtFrom.last
    {deck row : List Member} {member : Member}
    (dealt : DealtFrom deck (row ++ [member])) :
    deck[row.length % deck.length]? = some member := by
  have turnDealt := dealt row.length (by simp)
  rwa [List.getElem?_concat_length, eq_comm] at turnDealt

variable [DecidableEq Member]

/-- Every member of the deck has its share of the row. -/
theorem DealtFrom.count_eq
    {deck row : List Member} (dealt : DealtFrom deck row)
    (distinct : deck.Nodup) {member : Member} (listed : member ∈ deck) :
    row.count member = share deck.length (deck.idxOf member) row.length := by
  induction row using List.reverseRecOn with
  | nil => rfl
  | append_singleton row last induction =>
      have lastDealt := dealt.last
      rw [List.getElem?_eq_some_iff] at lastDealt
      rcases lastDealt with ⟨inside, lastDealt⟩
      have chosen :
          last = member ↔
            row.length % deck.length = deck.idxOf member := by
        constructor
        · rintro rfl
          rw [← lastDealt, distinct.idxOf_getElem _ inside]
        · intro same
          rw [← lastDealt]
          simp only [same]
          exact List.getElem_idxOf (List.idxOf_lt_length_of_mem listed)
      rw [List.count_append, induction dealt.of_append,
        List.length_append, List.length_singleton, share, share,
        Nat.count_succ, List.count_singleton]
      simp only [beq_iff_eq, chosen]

/-- The shares of any two members differ by at most one turn. -/
theorem DealtFrom.count_le_succ
    {deck row : List Member} (dealt : DealtFrom deck row)
    (distinct : deck.Nodup) {member other : Member}
    (memberListed : member ∈ deck) (otherListed : other ∈ deck) :
    row.count member ≤ row.count other + 1 := by
  rw [dealt.count_eq distinct memberListed,
    dealt.count_eq distinct otherListed]
  exact
    share_le_succ
      (List.idxOf_lt_length_of_mem memberListed)
      (List.idxOf_lt_length_of_mem otherListed) _

/-- A row of a whole round leaves out no member. -/
theorem DealtFrom.mem_of_length_le
    {deck row : List Member} (dealt : DealtFrom deck row)
    (distinct : deck.Nodup) (round : deck.length ≤ row.length)
    {member : Member} (listed : member ∈ deck) :
    member ∈ row := by
  rw [← List.count_pos_iff, dealt.count_eq distinct listed]
  exact share_pos (List.idxOf_lt_length_of_mem listed) round

end ZnsBench.Core.RoundRobin

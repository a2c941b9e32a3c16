import ZnsBench.Zookeeper.LockProtocol
import Mathlib.Data.List.Induction

/-!
# The loop over the children

What the loop of `zk_get_children_lock_res1` computes from a listing of lock
nodes, in whatever order the server lists them: whether a smaller number was
seen, the name of the process's own node, and the greatest smaller number.

The loop only depends on the numbers that `%d` reads from the names.  It is
treated for any kind of names that are read back, and then for those of the
numbers below the limit of the counter.
-/

namespace ZnsBench.Zookeeper.LockScan

open ZnsBench.Core.ByteString
open ZnsBench.Core.PaddedDecimal
open ZnsBench.Zookeeper.ZnodeServer
open ZnsBench.Zookeeper.LockProtocol

/-! ## Names that are read back -/

section Names

variable {Node : Type} [DecidableEq Node]

/-- The loop variables after some nodes, with a name and a number each. -/
structure ScannedBy
    (name : Node → Bytes) (number : Node → Int)
    (me : Node) (seqWatch : Int) (seen : List Node)
    (scan : ScanState) : Prop where
  first : scan.n = 0 ↔ ∀ node ∈ seen, number me ≤ number node
  self : scan.valueSelf = if me ∈ seen then some (name me) else none
  untouched :
    scan.n = 0 → scan.seqWatch = seqWatch ∧ scan.valueOther = none
  greatest :
    scan.n ≠ 0 →
      ∃ node ∈ seen,
        number node < number me ∧ scan.valueOther = some (name node) ∧
          scan.seqWatch = number node ∧
            ∀ other ∈ seen,
              number other < number me → number other ≤ number node

variable
    {name : Node → Bytes} {number : Node → Int}
    {me node : Node} {seqWatch : Int} {seen : List Node}
    {scan : ScanState}

theorem scannedBy_nil :
    ScannedBy name number me seqWatch [] ⟨0, 0, seqWatch, none, none⟩ where
  first := by simp
  self := by simp
  untouched := fun _ => ⟨rfl, rfl⟩
  greatest := fun nonzero => absurd rfl nonzero

/-- A node of the process's own number or above it. -/
theorem ScannedBy.not_smaller
    {v : Int} {valueSelf : Option Bytes}
    (scanned : ScannedBy name number me seqWatch seen scan)
    (notSmaller : number me ≤ number node)
    (self :
      valueSelf = if me ∈ seen ++ [node] then some (name me) else none) :
    ScannedBy name number me seqWatch (seen ++ [node])
      { scan with v := v, valueSelf := valueSelf } where
  first := by
    simp only [scanned.first, List.mem_append, List.mem_singleton]
    constructor
    · rintro above other (old | rfl)
      · exact above other old
      · exact notSmaller
    · intro above other old
      exact above other (Or.inl old)
  self := self
  untouched := scanned.untouched
  greatest := by
    intro nonzero
    rcases scanned.greatest nonzero with
      ⟨found, member, smaller, value, watch, greatest⟩
    refine
      ⟨found, List.mem_append_left _ member, smaller, value, watch, ?_⟩
    intro other otherMember otherSmaller
    rcases List.mem_append.mp otherMember with old | new
    · exact greatest other old otherSmaller
    · rw [List.mem_singleton.mp new] at otherSmaller
      exact absurd otherSmaller (not_lt.mpr notSmaller)

omit [DecidableEq Node] in
theorem not_first_of_smaller (smaller : number node < number me) :
    ¬ ∀ other ∈ seen ++ [node], number me ≤ number other := by
  intro above
  exact absurd (above node (by simp)) (not_le.mpr smaller)

theorem ScannedBy.self_of_ne
    (scanned : ScannedBy name number me seqWatch seen scan)
    (different : number node ≠ number me) :
    scan.valueSelf =
      if me ∈ seen ++ [node] then some (name me) else none := by
  have unequal : ¬ me = node := by
    rintro rfl
    exact different rfl
  simp only [scanned.self, List.mem_append, List.mem_singleton, unequal,
    or_false]

/-- A smaller node that becomes the one to watch. -/
theorem ScannedBy.greater
    {v : Int}
    (scanned : ScannedBy name number me seqWatch seen scan)
    (smaller : number node < number me)
    (greatest :
      ∀ other ∈ seen,
        number other < number me → number other ≤ number node) :
    ScannedBy name number me seqWatch (seen ++ [node])
      ⟨v, scan.n + 1, number node, scan.valueSelf, some (name node)⟩ where
  first :=
    iff_of_false (Nat.succ_ne_zero _) (not_first_of_smaller smaller)
  self := scanned.self_of_ne (ne_of_lt smaller)
  untouched := fun zero => absurd zero (Nat.succ_ne_zero _)
  greatest := by
    intro _
    refine ⟨node, by simp, smaller, rfl, rfl, ?_⟩
    intro other member otherSmaller
    rcases List.mem_append.mp member with old | new
    · exact greatest other old otherSmaller
    · rw [List.mem_singleton.mp new]

/-- A smaller node below the one that is watched already. -/
theorem ScannedBy.lower
    {v : Int}
    (scanned : ScannedBy name number me seqWatch seen scan)
    (smaller : number node < number me)
    (nonzero : scan.n ≠ 0)
    (lower : number node ≤ scan.seqWatch) :
    ScannedBy name number me seqWatch (seen ++ [node])
      { scan with v := v } where
  first := iff_of_false nonzero (not_first_of_smaller smaller)
  self := scanned.self_of_ne (ne_of_lt smaller)
  untouched := fun zero => absurd zero nonzero
  greatest := by
    intro _
    rcases scanned.greatest nonzero with
      ⟨found, member, foundSmaller, value, watch, greatest⟩
    refine
      ⟨found, List.mem_append_left _ member, foundSmaller, value, watch,
        ?_⟩
    intro other otherMember otherSmaller
    rcases List.mem_append.mp otherMember with old | new
    · exact greatest other old otherSmaller
    · rw [List.mem_singleton.mp new, ← watch]
      exact lower

/-- One iteration, over a node whose name is read back. -/
theorem ScannedBy.scanChild
    (scanned : ScannedBy name number me seqWatch seen scan)
    (readBack : scanInt (name node) = some (number node))
    (distinct : number node = number me → node = me) :
    ScannedBy name number me seqWatch (seen ++ [node])
      (scanChild (number me) scan (name node)) := by
  simp only [LockProtocol.scanChild, readBack, Option.getD_some]
  by_cases smaller : number node < number me
  · rw [if_pos smaller]
    by_cases zero : scan.n = 0
    · rw [if_pos zero]
      apply scanned.greater smaller
      intro other member otherSmaller
      have above := scanned.first.mp zero other member
      exact absurd otherSmaller (not_lt.mpr above)
    · rw [if_neg zero]
      by_cases greater : number node > scan.seqWatch
      · rw [if_pos greater]
        apply scanned.greater smaller
        intro other member otherSmaller
        rcases scanned.greatest zero with
          ⟨found, _, _, _, watch, greatest⟩
        have bound := greatest other member otherSmaller
        omega
      · rw [if_neg greater]
        exact scanned.lower smaller zero (not_lt.mp greater)
  · rw [if_neg smaller]
    have notSmaller : number me ≤ number node := not_lt.mp smaller
    by_cases equal : number node = number me
    · have same := distinct equal
      subst same
      rw [if_pos equal]
      apply scanned.not_smaller notSmaller
      simp
    · rw [if_neg equal]
      exact scanned.not_smaller notSmaller (scanned.self_of_ne equal)

/-- The whole loop, for every listing of such nodes. -/
theorem scannedBy_scanChildren
    {zmt : ZkMutex} {listing : List Node}
    (mine : zmt.seqMe = number me)
    (readBack :
      ∀ node ∈ listing, scanInt (name node) = some (number node))
    (distinct : ∀ node ∈ listing, number node = number me → node = me) :
    ScannedBy name number me zmt.seqWatch listing
      (scanChildren zmt (listing.map name)) := by
  induction listing using List.reverseRecOn with
  | nil => exact scannedBy_nil
  | append_singleton seen node induction =>
      have before :=
        induction
          (fun other member =>
            readBack other (List.mem_append_left _ member))
          (fun other member =>
            distinct other (List.mem_append_left _ member))
      rw [scanChildren, mine] at before ⊢
      rw [List.map_append, List.foldl_append]
      exact
        before.scanChild (readBack node (by simp)) (distinct node (by simp))

end Names

/-! ## Numbers below the limit of the counter -/

/-- The loop variables after some children. -/
structure Scanned
    (seqMe : Nat) (seqWatch : Int) (seen : List Nat)
    (scan : ScanState) : Prop where
  first : scan.n = 0 ↔ ∀ seq ∈ seen, seqMe ≤ seq
  self :
    scan.valueSelf = if seqMe ∈ seen then some (nodeName seqMe) else none
  untouched :
    scan.n = 0 → scan.seqWatch = seqWatch ∧ scan.valueOther = none
  greatest :
    scan.n ≠ 0 →
      ∃ seq ∈ seen,
        seq < seqMe ∧ scan.valueOther = some (nodeName seq) ∧
          scan.seqWatch = seq ∧
            ∀ other ∈ seen, other < seqMe → other ≤ seq

/-- The whole loop, for every listing of lock nodes. -/
theorem scanned_scanChildren
    {seqMe : Nat} {zmt : ZkMutex} {listing : List Nat}
    (mine : zmt.seqMe = seqMe)
    (small : ∀ seq ∈ listing, seq < counterLimit) :
    Scanned seqMe zmt.seqWatch listing
      (scanChildren zmt (listing.map nodeName)) := by
  have scanned :
      ScannedBy nodeName (fun seq : Nat => (seq : Int)) seqMe zmt.seqWatch
        listing (scanChildren zmt (listing.map nodeName)) :=
    scannedBy_scanChildren mine
      (fun seq member => scanInt_nodeName (small seq member))
      (fun _ _ => Int.ofNat_inj.mp)
  refine ⟨?_, scanned.self, scanned.untouched, ?_⟩
  · simpa only [Int.ofNat_le] using scanned.first
  · simpa only [Int.ofNat_le, Int.ofNat_lt] using scanned.greatest

/-! ## What a listing leads to -/

section Listing

variable {seqMe : Nat} {listing : List Nat} {client : Client}

/-- Without a smaller number the own path is announced and deleted. -/
theorem zkGetChildrenLockRes1_of_first
    (mine : client.zmt.seqMe = seqMe)
    (small : ∀ seq ∈ listing, seq < counterLimit)
    (listed : seqMe ∈ listing)
    (first : ∀ seq ∈ listing, seqMe ≤ seq) :
    zkGetChildrenLockRes1 zok (listing.map nodeName) client =
      zooAdelete (nodePath seqMe) (announce (nodePath seqMe) client) := by
  have scanned := scanned_scanChildren mine small
  have zero := scanned.first.mpr first
  have self := scanned.self
  rw [if_pos listed] at self
  rcases zkGetChildrenLockRes1_cases (listing.map nodeName) client with
    ⟨_, result⟩ | ⟨nonzero, _⟩
  · rw [result, self, (scanned.untouched zero).1]
    rfl
  · exact absurd zero nonzero

/-- With smaller numbers the path of the greatest of them is watched. -/
theorem zkGetChildrenLockRes1_of_smaller
    (mine : client.zmt.seqMe = seqMe)
    (small : ∀ seq ∈ listing, seq < counterLimit)
    {found : Nat} (listed : found ∈ listing) (smaller : found < seqMe)
    (greatest : ∀ other ∈ listing, other < seqMe → other ≤ found) :
    zkGetChildrenLockRes1 zok (listing.map nodeName) client =
      zooAexists (nodePath found)
        { client with
          zmt :=
            { client.zmt with
              seqWatch := found
              watch := nodePath found } } := by
  have scanned := scanned_scanChildren mine small
  have nonzero :
      (scanChildren client.zmt (listing.map nodeName)).n ≠ 0 := by
    intro zero
    have above := scanned.first.mp zero found listed
    omega
  rcases scanned.greatest nonzero with
    ⟨kept, keptListed, keptSmaller, value, watch, keptGreatest⟩
  have lower := greatest kept keptListed keptSmaller
  have upper := keptGreatest found listed smaller
  have same : kept = found := by omega
  subst same
  rcases zkGetChildrenLockRes1_cases (listing.map nodeName) client with
    ⟨zero, _⟩ | ⟨_, result⟩
  · exact absurd zero nonzero
  · rw [result, value, watch]
    rfl

/-- The two cases exclude each other and leave no third one. -/
theorem first_or_exists_greatest
    (mine : client.zmt.seqMe = seqMe)
    (small : ∀ seq ∈ listing, seq < counterLimit) :
    (∀ seq ∈ listing, seqMe ≤ seq) ∨
      ∃ found ∈ listing,
        found < seqMe ∧
          ∀ other ∈ listing, other < seqMe → other ≤ found := by
  have scanned := scanned_scanChildren mine small
  by_cases zero : (scanChildren client.zmt (listing.map nodeName)).n = 0
  · exact Or.inl (scanned.first.mp zero)
  · rcases scanned.greatest zero with
      ⟨found, listed, smaller, _, _, greatest⟩
    exact Or.inr ⟨found, listed, smaller, greatest⟩

end Listing

end ZnsBench.Zookeeper.LockScan

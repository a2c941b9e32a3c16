import ZnsBench.Zookeeper.LeaderElection

/-!
# Which path a process leads from or watches

`check_leadership` sorts the names of a listing and looks its own one up.
While the node is listed, the process leads or watches its predecessor by
number.  The case that the name is missing is not told apart: the position is
then the end of the list, which is the beginning of an empty one.
-/

namespace ZnsBench.Zookeeper.LeaderSelection

open ZnsBench.Core.ByteString
open ZnsBench.Core.SortedPosition
open ZnsBench.Zookeeper.ZnodeServer
open ZnsBench.Zookeeper.LeaderElection

/-- `check_leadership`, whose listing succeeds, up to `zoo_exists`. -/
def checkLeadership (children : List Bytes) (client : Client) : Client :=
  leadershipDecided children (childrenFetched zok children client)

/-- The call prints that this node is the leader. -/
def Announces (children : List Bytes) (client : Client) : Prop :=
  (checkLeadership children { client with announced := false }).announced

/-- The call sets `predecessor_node`. -/
def Follows (children : List Bytes) (client : Client) (path : Bytes) :
    Prop :=
  decideLeadership client.currentNode children = .follower path

theorem announces_iff (children : List Bytes) (client : Client) :
    Announces children client ↔
      decideLeadership client.currentNode children = .leader := by
  simp only [Announces, checkLeadership, childrenFetched, zok, ne_eq,
    not_true_eq_false, if_false, leadershipDecided]
  cases decideLeadership client.currentNode children <;> simp

/-- A follower keeps everything but its predecessor and its position. -/
theorem Follows.checkLeadership_eq
    {children : List Bytes} {client : Client} {path : Bytes}
    (follows : Follows children client path) :
    checkLeadership children client =
      { client with predecessorNode := path, position := .checking } := by
  unfold Follows at follows
  simp only [checkLeadership, childrenFetched, zok, ne_eq,
    not_true_eq_false, if_false, leadershipDecided, follows]

theorem announces_or_follows (children : List Bytes) (client : Client) :
    Announces children client ∨ ∃ path, Follows children client path := by
  rw [announces_iff]
  unfold Follows
  cases decideLeadership client.currentNode children with
  | leader => exact Or.inl rfl
  | follower path => exact Or.inr ⟨path, rfl⟩

/-! ## Listed nodes -/

/--
A process whose node is listed announces that it leads if and only if no
number is smaller; otherwise the path of the greatest smaller number becomes
`predecessor_node`.
-/
theorem checkLeadership_selects
    (client : Client) (seq : Nat) (listing : List Nat)
    (mine : client.currentNode = nodePath seq)
    (small : ∀ other ∈ listing, other < counterLimit)
    (listed : seq ∈ listing) :
    (Announces (listing.map nodeName) client ↔
        ∀ other ∈ listing, seq ≤ other) ∧
      ((¬ ∀ other ∈ listing, seq ≤ other) →
        ∃ found ∈ listing,
          found < seq ∧
            (∀ other ∈ listing, other < seq → other ≤ found) ∧
              checkLeadership (listing.map nodeName) client =
                { client with
                  predecessorNode :=
                    electionPath ++ ascii "/" ++ nodeName found
                  position := .checking }) := by
  have leads :
      Announces (listing.map nodeName) client ↔
        ∀ other ∈ listing, seq ≤ other := by
    rw [announces_iff, mine]
    exact decideLeadership_eq_leader_iff listed small
  refine ⟨leads, ?_⟩
  intro notFirst
  rcases announces_or_follows (listing.map nodeName) client with
    announces | ⟨path, follows⟩
  · exact absurd (leads.mp announces) notFirst
  · have decided := follows
    rw [Follows, mine] at decided
    rcases predecessor_of_follower listed small decided with
      ⟨found, foundListed, rfl, smaller, greatest⟩
    exact
      ⟨found, foundListed, smaller, greatest, follows.checkLeadership_eq⟩

/-- The nodes 10, 9 and 2, listed to the process with number 10. -/
theorem checkLeadership_selects_nine :
    (checkLeadership ([10, 9, 2].map nodeName)
        { Client.fresh with currentNode := nodePath 10 }).predecessorNode =
      nodePath 9 := by
  have selected :=
    (checkLeadership_selects
      { Client.fresh with currentNode := nodePath 10 } 10 [10, 9, 2] rfl
      (by decide) (by decide)).2 (by decide)
  rcases selected with ⟨found, listed, smaller, greatest, after⟩
  have atLeast := greatest 9 (by decide) (by decide)
  have same : found = 9 := by
    simp only [List.mem_cons, List.not_mem_nil, or_false] at listed
    omega
  rw [after, same]
  rfl

/-! ## Any listing -/

/-- The name that `check_leadership` looks up. -/
def ownName (client : Client) : Bytes :=
  client.currentNode.drop (electionPath.length + 1)

/--
Only a listed and least node leads, and only a smaller node is followed.
-/
structure LeadsWithNode (children : List Bytes) (client : Client) :
    Prop where
  leader :
    Announces children client →
      ownName client ∈ children ∧ ∀ name ∈ children, ownName client ≤ name
  predecessor :
    ∀ path,
      Follows children client path →
        ∃ name ∈ children, name < ownName client ∧ path = pathOf name

/-- A missing name has the position behind the last one. -/
theorem idxOf_sorted_of_notMem
    {children : List Bytes} {name : Bytes} (missing : name ∉ children) :
    (sorted children).idxOf name = children.length := by
  have absent : name ∉ sorted children := by
    rw [mem_sorted]
    exact missing
  rw [List.idxOf_eq_length absent]
  exact List.length_insertionSort (· ≤ ·) children

/-- The last of the sorted names is a greatest one. -/
theorem getD_sorted_last
    {children : List Bytes} (some : children ≠ []) :
    ∃ name ∈ children,
      (sorted children).getD (children.length - 1) [] = name ∧
        ∀ other ∈ children, other ≤ name := by
  have length : (sorted children).length = children.length :=
    List.length_insertionSort (· ≤ ·) children
  have nonempty : sorted children ≠ [] := by
    rw [← List.length_pos_iff, length]
    exact List.length_pos_iff.mpr some
  rcases List.eq_nil_or_concat (sorted children) with
    empty | ⟨front, name, split⟩
  · exact absurd empty nonempty
  · refine ⟨name, ?_, ?_, ?_⟩
    · rw [← mem_sorted, split]
      simp
    · rw [← length, split]
      simp
    · intro other member
      have ordered := pairwise_sorted children
      rw [split, List.concat_eq_append, List.pairwise_append] at ordered
      rw [← mem_sorted, split, List.concat_eq_append] at member
      rcases List.mem_append.mp member with earlier | last
      · exact ordered.2.2 other earlier name (List.mem_singleton_self _)
      · rw [List.mem_singleton.mp last]
        exact List.le_refl _

/-- A listed name leads or follows as it should. -/
theorem leadsWithNode_of_mem
    {children : List Bytes} {client : Client}
    (listed : ownName client ∈ children) :
    LeadsWithNode children client := by
  constructor
  · intro announces
    rw [announces_iff, decideLeadership] at announces
    refine ⟨listed, (idxOf_sorted_eq_zero_iff listed).mp ?_⟩
    by_contra nonzero
    rw [ownName] at nonzero
    simp only [nonzero, if_false] at announces
    cases announces
  · intro path follows
    rw [Follows, decideLeadership] at follows
    split at follows
    · cases follows
    · next nonzero =>
      rcases sorted_predecessor listed nonzero with
        ⟨name, member, value, below, different, _⟩
      rw [ownName] at value
      rw [List.getD_eq_getElem?_getD, value, Option.getD_some] at follows
      cases follows
      exact ⟨name, member, Std.lt_of_le_of_ne below different, rfl⟩

/-- A missing name makes a leader of an empty listing's reader. -/
theorem announces_iff_of_notMem
    {children : List Bytes} {client : Client}
    (missing : ownName client ∉ children) :
    Announces children client ↔ children = [] := by
  rw [announces_iff, decideLeadership]
  have position := idxOf_sorted_of_notMem missing
  rw [ownName] at position
  simp only [position, List.length_eq_zero_iff]
  split
  · next empty => simp [empty]
  · next nonempty => simp [nonempty]

/-- Otherwise it follows the greatest of the names. -/
theorem follows_of_notMem
    {children : List Bytes} {client : Client}
    (missing : ownName client ∉ children) (some : children ≠ []) :
    ∃ name ∈ children,
      (∀ other ∈ children, other ≤ name) ∧
        Follows children client (pathOf name) := by
  rcases getD_sorted_last some with ⟨name, member, last, greatest⟩
  have position := idxOf_sorted_of_notMem missing
  rw [ownName] at position
  have nonzero : ¬ children.length = 0 := by
    rw [List.length_eq_zero_iff]
    exact some
  refine ⟨name, member, greatest, ?_⟩
  rw [Follows, decideLeadership]
  simp only [position, if_neg nonzero, last]

/--
The law holds when the own node is listed, and else when there are children
and all of them are smaller.
-/
theorem leadsWithNode_iff (children : List Bytes) (client : Client) :
    LeadsWithNode children client ↔
      ownName client ∈ children ∨
        (children ≠ [] ∧ ∀ name ∈ children, name < ownName client) := by
  constructor
  · intro law
    by_cases listed : ownName client ∈ children
    · exact Or.inl listed
    · right
      have some : children ≠ [] := by
        intro empty
        have announces := (announces_iff_of_notMem listed).mpr empty
        exact listed (law.leader announces).1
      rcases follows_of_notMem listed some with
        ⟨name, member, greatest, follows⟩
      rcases law.predecessor _ follows with ⟨other, _, smaller, path⟩
      have same : name = other := List.append_cancel_left path
      rw [← same] at smaller
      exact
        ⟨some, fun other member =>
          List.lt_of_le_of_lt (greatest other member) smaller⟩
  · rintro (listed | ⟨some, smaller⟩)
    · exact leadsWithNode_of_mem listed
    · have missing : ownName client ∉ children := by
        intro listed
        exact List.lt_irrefl _ (smaller _ listed)
      constructor
      · intro announces
        exact absurd ((announces_iff_of_notMem missing).mp announces) some
      · intro path follows
        rcases follows_of_notMem missing some with
          ⟨name, member, _, decided⟩
        rw [Follows, decided] at follows
        cases follows
        exact ⟨name, member, smaller name member, rfl⟩

/--
The node of a process has expired, and the listing is empty: the process
announces that it leads.
-/
theorem not_leadsWithNode_when_expired :
    ¬ LeadsWithNode []
      { Client.fresh with currentNode := nodePath 3 } := by
  intro law
  have announces :
      Announces [] { Client.fresh with currentNode := nodePath 3 } := by
    unfold Announces
    decide +kernel
  exact absurd (law.leader announces).1 List.not_mem_nil

end ZnsBench.Zookeeper.LeaderSelection

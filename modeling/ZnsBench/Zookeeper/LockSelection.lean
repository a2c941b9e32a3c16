import ZnsBench.Zookeeper.LockScan

/-!
# Which path a process deletes or watches

`zk_get_children_lock_res1` deletes the process's own path, or watches the
path of its predecessor.  The choice is a function of the set of numbers in
the listing: neither their order nor what an earlier call left in `zmt`
matters.

`zk_create_lock_res1_es` takes a number that is not positive for the first
one and does not ask for a listing.  The server counts on with negative
numbers after `2^31 - 1`, and there the two callbacks disagree.
-/

namespace ZnsBench.Zookeeper.LockSelection

open ZnsBench.Core.ByteString
open ZnsBench.Core.PaddedDecimal
open ZnsBench.Zookeeper.ZnodeServer
open ZnsBench.Zookeeper.LockProtocol
open ZnsBench.Zookeeper.LockScan

/-! ## The predecessor -/

/--
The own path is deleted if and only if no listed number is smaller, and then
nothing else changes.  Otherwise the path of the greatest smaller number is
watched.  Any other order of the listing has the same result.
-/
theorem zkGetChildrenLockRes1_selects
    (client : Client) (seqMe : Nat) (listing : List Nat)
    (mine : client.zmt.seqMe = seqMe)
    (small : ∀ seq ∈ listing, seq < counterLimit)
    (listed : seqMe ∈ listing) :
    let after :=
      zkGetChildrenLockRes1 zok (listing.map nodeName) client
    (after.deletes ≠ client.deletes ↔ ∀ seq ∈ listing, seqMe ≤ seq) ∧
      ((∀ seq ∈ listing, seqMe ≤ seq) →
        after.deletes =
            client.deletes ++ [lockDirectory ++ nodeName seqMe] ∧
          after.zmt.watch = client.zmt.watch) ∧
      ((¬ ∀ seq ∈ listing, seqMe ≤ seq) →
        ∃ found ∈ listing,
          found < seqMe ∧
            (∀ other ∈ listing, other < seqMe → other ≤ found) ∧
              after.zmt.watch = lockDirectory ++ nodeName found ∧
                after.zmt.seqWatch = found ∧
                  after.requests =
                    client.requests ++
                      [.aexists (lockDirectory ++ nodeName found)]) ∧
      ∀ other : List Nat,
        other.Perm listing →
          zkGetChildrenLockRes1 zok (other.map nodeName) client =
            after := by
  intro after
  rcases first_or_exists_greatest mine small with
    first | ⟨found, foundListed, smaller, greatest⟩
  · have result :=
      zkGetChildrenLockRes1_of_first mine small listed first
    have deletes :
        after.deletes = client.deletes ++ [nodePath seqMe] :=
      congrArg Client.deletes result
    refine ⟨iff_of_true ?_ first, ?_, ?_, ?_⟩
    · rw [deletes]
      simp
    · intro _
      exact ⟨deletes, congrArg (fun next => next.zmt.watch) result⟩
    · intro notFirst
      exact absurd first notFirst
    · intro other permuted
      refine Eq.trans ?_ result.symm
      exact
        zkGetChildrenLockRes1_of_first mine
          (fun seq member => small seq (permuted.mem_iff.mp member))
          (permuted.mem_iff.mpr listed)
          (fun seq member => first seq (permuted.mem_iff.mp member))
  · have notFirst : ¬ ∀ seq ∈ listing, seqMe ≤ seq := by
      intro first
      have above := first found foundListed
      omega
    have result :=
      zkGetChildrenLockRes1_of_smaller mine small foundListed smaller
        greatest
    refine ⟨iff_of_false ?_ notFirst, ?_, ?_, ?_⟩
    · have deletes : after.deletes = client.deletes :=
        (congrArg Client.deletes result).trans rfl
      exact not_not.mpr deletes
    · intro first
      exact absurd first notFirst
    · intro _
      exact
        ⟨found, foundListed, smaller, greatest,
          congrArg (fun next => next.zmt.watch) result,
          congrArg (fun next => next.zmt.seqWatch) result,
          congrArg Client.requests result⟩
    · intro other permuted
      refine Eq.trans ?_ result.symm
      exact
        zkGetChildrenLockRes1_of_smaller mine
          (fun seq member => small seq (permuted.mem_iff.mp member))
          (permuted.mem_iff.mpr foundListed) smaller
          (fun seq member => greatest seq (permuted.mem_iff.mp member))

/-- The nodes 7, 2, 9 and 5, listed to the process with number 7. -/
theorem zkGetChildrenLockRes1_selects_five :
    (zkGetChildrenLockRes1 zok ([7, 2, 9, 5].map nodeName)
        { Client.fresh with zmt := ⟨7, 8, ascii "/lock/res1/x"⟩ }).zmt.watch =
      lockDirectory ++ nodeName 5 := by
  have selected :=
    (zkGetChildrenLockRes1_selects
      { Client.fresh with zmt := ⟨7, 8, ascii "/lock/res1/x"⟩ }
      7 [7, 2, 9, 5] rfl (by decide) (by decide)).2.2.1
      (by decide)
  rcases selected with ⟨found, listed, smaller, greatest, watch, _⟩
  have atLeast := greatest 5 (by decide) (by decide)
  have same : found = 5 := by
    simp only [List.mem_cons, List.not_mem_nil, or_false] at listed
    omega
  rw [watch, same]

/-! ## Signed numbers -/

/-- `%010d` of a signed number of 32 bits: a sign takes one of the places. -/
def signedName (seq : Int32) : Bytes :=
  let magnitude := seq.toInt.natAbs
  if seq.toInt < 0 then
    45 :: (if magnitude < 10 ^ 9 then
        padded 9 magnitude
      else
        padded 10 magnitude)
  else
    padded 10 magnitude

theorem scanInt_minus
    {width number : Nat} (fits : number < 10 ^ (width + 1)) :
    scanInt (45 :: padded (width + 1) number) = some (-(number : Int)) := by
  have digit := isDigit_digitByte (leading_lt_ten fits)
  have value := digitsValue_padded 0 fits
  rw [Nat.zero_mul, Nat.zero_add, padded] at value
  rw [scanInt, List.dropWhile_cons_of_neg (by decide)]
  simp only [beq_self_eq_true, if_true, scanUnsigned, padded,
    List.head?_cons, Option.any_some, digit, value, Option.map_some]
  rfl

/-- `%d` reads a signed name back. -/
@[simp]
theorem scanInt_signedName (seq : Int32) :
    scanInt (signedName seq) = some seq.toInt := by
  have lower := seq.le_toInt
  have upper := seq.toInt_lt
  unfold signedName
  by_cases negative : seq.toInt < 0
  · have magnitude : seq.toInt = -(seq.toInt.natAbs : Int) := by omega
    simp only [negative, if_true]
    split
    · next short =>
      rw [scanInt_minus short, ← magnitude]
    · have fits : seq.toInt.natAbs < 10 ^ 10 := by omega
      rw [scanInt_minus fits, ← magnitude]
  · have magnitude : seq.toInt = (seq.toInt.natAbs : Int) := by omega
    have fits : seq.toInt.natAbs < 10 ^ 10 := by omega
    simp only [negative, if_false]
    rw [scanInt_padded fits, ← magnitude]

/-- The path of the node with a signed number. -/
def signedPath (seq : Int32) : Bytes := lockDirectory ++ signedName seq

/-- The loop over a listing of signed names. -/
theorem scannedBy_signedName
    {seqMe : Int32} {zmt : ZkMutex}
    (mine : zmt.seqMe = seqMe.toInt) (listing : List Int32) :
    ScannedBy signedName Int32.toInt seqMe zmt.seqWatch listing
      (scanChildren zmt (listing.map signedName)) :=
  scannedBy_scanChildren mine
    (fun seq _ => scanInt_signedName seq)
    (fun _ _ => Int32.toInt_inj.mp)

/-! ## The fast path -/

/-- The client prints that it has acquired the lock by a path. -/
def Announces (path : Bytes) (before after : Client) : Prop :=
  after.announced = before.announced ++ [path]

instance (path : Bytes) (before after : Client) :
    Decidable (Announces path before after) :=
  inferInstanceAs (Decidable (_ = _))

/-- `zk_get_children_lock_res1` with a number for `zmt.seq_me`. -/
def listAs (seqMe : Int32) (strings : List Bytes) (client : Client) :
    Client :=
  zkGetChildrenLockRes1 zok strings
    { client with zmt := { client.zmt with seqMe := seqMe.toInt } }

/--
`zk_create_lock_res1_es` and, when it requests a listing, the callback of the
listing.
-/
def createThenList (path : Bytes) (strings : List Bytes)
    (client : Client) : Option Client :=
  (zkCreateLockRes1Es 0 zok path client).map fun created =>
    if created.requests = client.requests ++ [.agetChildren] then
      zkGetChildrenLockRes1 zok strings created
    else
      created

/--
The lock is announced after the create, at once or by the listing that it
requests, exactly when a listing announces it; and a listing announces it
exactly when no child has a smaller number.
-/
def FastPathAgrees (seqMe : Int32) (children : List Int32)
    (client : Client) : Prop :=
  ((∃ after,
      createThenList (signedPath seqMe) (children.map signedName) client =
          some after ∧
        Announces (signedPath seqMe) client after) ↔
    Announces (signedPath seqMe) client
      (listAs seqMe (children.map signedName) client)) ∧
  (Announces (signedPath seqMe) client
      (listAs seqMe (children.map signedName) client) ↔
    ∀ other ∈ children, seqMe.toInt ≤ other.toInt)

theorem not_announces_self (path : Bytes) {before after : Client}
    (unchanged : after.announced = before.announced) :
    ¬ Announces path before after := by
  intro announces
  rw [Announces, unchanged] at announces
  simp at announces

/-- A listing announces the lock when no child has a smaller number. -/
theorem announces_zkGetChildrenLockRes1_iff
    {seqMe : Int32} {children : List Int32} (client : Client)
    (mine : client.zmt.seqMe = seqMe.toInt) (listed : seqMe ∈ children) :
    Announces (signedPath seqMe) client
        (zkGetChildrenLockRes1 zok (children.map signedName) client) ↔
      ∀ other ∈ children, seqMe.toInt ≤ other.toInt := by
  have scanned := scannedBy_signedName mine children
  have self := scanned.self
  rw [if_pos listed] at self
  rcases zkGetChildrenLockRes1_cases (children.map signedName) client with
    ⟨zero, result⟩ | ⟨nonzero, result⟩
  · refine iff_of_true ?_ (scanned.first.mp zero)
    rw [result, self]
    rfl
  · refine iff_of_false ?_ (fun above => nonzero (scanned.first.mpr above))
    rw [result]
    exact not_announces_self _ rfl

/-- The number in the path of the created node is read back. -/
@[simp]
theorem scanIntAfter_signedPath (seq : Int32) :
    scanIntAfter lockDirectory (signedPath seq) = some seq.toInt := by
  rw [signedPath, scanIntAfter_append, scanInt_signedName]

/-- The create leads to a listing for positive numbers only. -/
theorem createThenList_eq
    (seqMe : Int32) (strings : List Bytes) (client : Client) :
    createThenList (signedPath seqMe) strings client =
      some
        (if 0 < seqMe.toInt then
          zkGetChildrenLockRes1 zok strings
            (zooAgetChildren
              { client with
                zmt := { client.zmt with seqMe := seqMe.toInt } })
        else
          zooAdelete (signedPath seqMe)
            (announce (signedPath seqMe)
              { client with
                zmt := { client.zmt with seqMe := seqMe.toInt } })) := by
  simp only [createThenList, zkCreateLockRes1Es, zok, if_true,
    scanIntAfter_signedPath, Option.getD_some, gt_iff_lt]
  split
  · simp [zooAgetChildren, send]
  · simp [zooAdelete, announce, send]

/-- The fast path agrees for positive numbers and for smallest ones. -/
theorem fastPathAgrees_iff
    (seqMe : Int32) (children : List Int32) (client : Client)
    (listed : seqMe ∈ children) :
    FastPathAgrees seqMe children client ↔
      0 < seqMe.toInt ∨ ∀ other ∈ children, seqMe.toInt ≤ other.toInt := by
  have slow :
      Announces (signedPath seqMe) client
          (listAs seqMe (children.map signedName) client) ↔
        ∀ other ∈ children, seqMe.toInt ≤ other.toInt :=
    announces_zkGetChildrenLockRes1_iff
      { client with zmt := { client.zmt with seqMe := seqMe.toInt } }
      rfl listed
  rw [FastPathAgrees, createThenList_eq, slow]
  simp only [Option.some.injEq, exists_eq_left', and_true, iff_self]
  by_cases positive : 0 < seqMe.toInt
  · have listing :=
      announces_zkGetChildrenLockRes1_iff
        (zooAgetChildren
          { client with
            zmt := { client.zmt with seqMe := seqMe.toInt } })
        rfl listed
    simp only [positive, if_true, true_or, iff_true]
    exact listing
  · have announces :
        Announces (signedPath seqMe) client
          (zooAdelete (signedPath seqMe)
            (announce (signedPath seqMe)
              { client with
                zmt := { client.zmt with seqMe := seqMe.toInt } })) :=
      rfl
    simp only [positive, if_false, false_or, announces, true_iff]

/-- The fifth node behind the third one. -/
theorem fastPathAgrees_for_five :
    FastPathAgrees 5 [5, 3] Client.fresh :=
  (fastPathAgrees_iff 5 [5, 3] Client.fresh (by decide)).mpr
    (Or.inl (by decide))

/--
After the counter has wrapped, the second negative number takes the lock
that the first one has.
-/
theorem not_fastPathAgrees_after_wrap :
    ¬ FastPathAgrees (-2147483647) [-2147483648, -2147483647]
      Client.fresh := by
  rintro ⟨fast, slow⟩
  have announced :=
    fast.mp ⟨_, createThenList_eq _ _ _, by decide +kernel⟩
  have lower := slow.mp announced (-2147483648) (by decide)
  exact absurd lower (by decide)

end ZnsBench.Zookeeper.LockSelection

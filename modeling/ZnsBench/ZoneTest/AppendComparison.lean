import Mathlib.Data.List.Basic
import Mathlib.Data.UInt

/-!
# Counting reordered appends

`simple_append.cc` appends the same blocks to a zone of two devices, reads
both zones back and counts the blocks whose first words differ.  Every read
fills the next block of a large buffer, but the word that is kept is always
the first one of the buffer.

A read here fills its part of the buffer before it returns.
-/

namespace ZnsBench.ZoneTest.AppendComparison

/-! ## Blocks and buffers -/

/-- The bytes of a block. -/
def blockBytes : Nat := 4096

/-- The bytes of one block. -/
abbrev Block := Fin blockBytes → UInt8

/-- The blocks of a device, by their address. -/
abbrev Device := UInt64 → Block

/-- The bytes from some address on. -/
abbrev Memory := Nat → UInt8

/-- `*(u64 *)(memory + offset)`, in little-endian order. -/
def wordAt (memory : Memory) (offset : Nat) : UInt64 :=
  (List.range 8).foldr
    (fun index word =>
      (word <<< (8 : UInt64)) ||| (memory (offset + index)).toUInt64)
    0

/-- The first word of a block. -/
def firstWord (block : Block) : UInt64 :=
  wordAt (fun index =>
      if inside : index < blockBytes then block ⟨index, inside⟩ else 0)
    0

/-- `enq_read(lba, 4096, memory + offset)`, done when it returns. -/
def enqRead (device : Device) (lba : UInt64) (offset : Nat)
    (memory : Memory) : Memory := fun index =>
  if inside : index - offset < blockBytes then
    if offset ≤ index then
      device lba ⟨index - offset, inside⟩
    else
      memory index
  else
    memory index

/-- A word depends on its eight bytes. -/
theorem wordAt_congr
    {first second : Memory} {offset other : Nat}
    (same : ∀ index < 8, first (offset + index) = second (other + index)) :
    wordAt first offset = wordAt second other := by
  unfold wordAt
  apply List.foldr_ext
  intro index member word
  rw [same index (List.mem_range.mp member)]

/-- The word at the start of what has been read. -/
@[simp]
theorem wordAt_enqRead_self
    (device : Device) (lba : UInt64) (offset : Nat) (memory : Memory) :
    wordAt (enqRead device lba offset memory) offset =
      firstWord (device lba) := by
  apply wordAt_congr
  intro index inside
  have within : index < blockBytes := by
    unfold blockBytes
    omega
  simp only [enqRead, Nat.add_sub_cancel_left, Nat.le_add_right, if_true,
    Nat.zero_add, within, dif_pos]

/-- A read leaves the words before its part of the buffer alone. -/
theorem wordAt_enqRead_of_before
    (device : Device) (lba : UInt64) {offset start : Nat}
    (before : start + 8 ≤ offset) (memory : Memory) :
    wordAt (enqRead device lba offset memory) start =
      wordAt memory start := by
  apply wordAt_congr
  intro index inside
  have outside : ¬ offset ≤ start + index := by omega
  simp only [enqRead, if_neg outside, dite_eq_ite, ite_self]

/-! ## The program -/

/-- The buffers and vectors of the read phase. -/
structure ReadBack where
  rbuf1 : Memory
  rbuf2 : Memory
  data1 : List UInt64
  data2 : List UInt64

/-- `rbuf1` and `rbuf2` as `new` leaves them, and empty vectors. -/
def ReadBack.start (rbuf1 rbuf2 : Memory) : ReadBack where
  rbuf1 := rbuf1
  rbuf2 := rbuf2
  data1 := []
  data2 := []

/-- One pass of the read loop. -/
def readPass (dev1 dev2 : Device) (zslba : UInt64) (state : ReadBack)
    (index : Nat) : ReadBack :=
  let lba := zslba + UInt64.ofNat index
  let rbuf1 := enqRead dev1 lba (index * blockBytes) state.rbuf1
  let rbuf2 := enqRead dev2 lba (index * blockBytes) state.rbuf2
  { rbuf1 := rbuf1
    rbuf2 := rbuf2
    data1 := state.data1 ++ [wordAt rbuf1 0]
    data2 := state.data2 ++ [wordAt rbuf2 0] }

/-- The loop that reads the appended blocks back from both devices. -/
def readBack (dev1 dev2 : Device) (zslba : UInt64) (numAppends : Nat)
    (start : ReadBack) : ReadBack :=
  (List.range numAppends).foldl (readPass dev1 dev2 zslba) start

/-- The loop that counts the mismatches. -/
def mismatches (numAppends : Nat) (data1 data2 : List UInt64) : Nat :=
  (List.range numAppends).foldl
    (fun count index =>
      if data1[index]? ≠ data2[index]? then count + 1 else count)
    0

theorem mismatches_eq_countP
    (numAppends : Nat) (data1 data2 : List UInt64) :
    mismatches numAppends data1 data2 =
      (List.range numAppends).countP fun index =>
        data1[index]? ≠ data2[index]? := by
  unfold mismatches
  induction numAppends with
  | zero => rfl
  | succ numAppends induction =>
      rw [List.range_succ, List.foldl_append, List.countP_append, induction]
      simp only [List.foldl_cons, List.foldl_nil, List.countP_singleton,
        decide_eq_true_eq]
      split <;> rfl

/-! ## What is kept -/

/-- The first word of a block of the zone. -/
def wordOf (device : Device) (zslba : UInt64) (index : Nat) : UInt64 :=
  firstWord (device (zslba + UInt64.ofNat index))

/-- After each pass the buffers begin with the first block. -/
structure FirstKept (dev1 dev2 : Device) (zslba : UInt64) (passes : Nat)
    (state : ReadBack) : Prop where
  data1 : state.data1 = List.replicate passes (wordOf dev1 zslba 0)
  data2 : state.data2 = List.replicate passes (wordOf dev2 zslba 0)
  rbuf1 : 0 < passes → wordAt state.rbuf1 0 = wordOf dev1 zslba 0
  rbuf2 : 0 < passes → wordAt state.rbuf2 0 = wordOf dev2 zslba 0

/-- The first pass fills the front of a buffer, the others keep it. -/
theorem wordAt_zero_enqRead
    (device : Device) (zslba : UInt64) (index : Nat) {memory : Memory}
    (kept : 0 < index → wordAt memory 0 = wordOf device zslba 0) :
    wordAt
        (enqRead device (zslba + UInt64.ofNat index) (index * blockBytes)
          memory)
        0 =
      wordOf device zslba 0 := by
  cases index with
  | zero =>
      rw [Nat.zero_mul]
      exact wordAt_enqRead_self device _ 0 memory
  | succ index =>
      have before : 0 + 8 ≤ (index + 1) * blockBytes := by
        unfold blockBytes
        omega
      rw [wordAt_enqRead_of_before device _ before]
      exact kept (Nat.succ_pos index)

theorem FirstKept.readPass
    {dev1 dev2 : Device} {zslba : UInt64} {passes : Nat}
    {state : ReadBack}
    (kept : FirstKept dev1 dev2 zslba passes state) :
    FirstKept dev1 dev2 zslba (passes + 1)
      (readPass dev1 dev2 zslba state passes) where
  data1 := by
    simp only [AppendComparison.readPass, kept.data1,
      wordAt_zero_enqRead dev1 zslba passes kept.rbuf1]
    rw [← List.replicate_succ']
  data2 := by
    simp only [AppendComparison.readPass, kept.data2,
      wordAt_zero_enqRead dev2 zslba passes kept.rbuf2]
    rw [← List.replicate_succ']
  rbuf1 := fun _ => wordAt_zero_enqRead dev1 zslba passes kept.rbuf1
  rbuf2 := fun _ => wordAt_zero_enqRead dev2 zslba passes kept.rbuf2

theorem firstKept_readBack
    (dev1 dev2 : Device) (zslba : UInt64) (numAppends : Nat)
    (rbuf1 rbuf2 : Memory) :
    FirstKept dev1 dev2 zslba numAppends
      (readBack dev1 dev2 zslba numAppends
        (ReadBack.start rbuf1 rbuf2)) := by
  unfold readBack
  induction numAppends with
  | zero =>
      exact
        ⟨rfl, rfl, fun positive => absurd positive (Nat.lt_irrefl 0),
          fun positive => absurd positive (Nat.lt_irrefl 0)⟩
  | succ numAppends induction =>
      rw [List.range_succ, List.foldl_append]
      exact induction.readPass

/-! ## The law -/

/--
The vectors hold the first words of the blocks, and the number reported is
the number of blocks whose first words differ.
-/
structure CountsDifferences (dev1 dev2 : Device) (zslba : UInt64)
    (numAppends : Nat) (final : ReadBack) : Prop where
  data1 :
    ∀ index < numAppends,
      final.data1[index]? = some (wordOf dev1 zslba index)
  data2 :
    ∀ index < numAppends,
      final.data2[index]? = some (wordOf dev2 zslba index)
  reported :
    mismatches numAppends final.data1 final.data2 =
      (List.range numAppends).countP fun index =>
        wordOf dev1 zslba index ≠ wordOf dev2 zslba index

/-- Vectors that hold the words lead to the right number. -/
theorem reported_of_data
    {dev1 dev2 : Device} {zslba : UInt64} {numAppends : Nat}
    {data1 data2 : List UInt64}
    (first :
      ∀ index < numAppends, data1[index]? = some (wordOf dev1 zslba index))
    (second :
      ∀ index < numAppends,
        data2[index]? = some (wordOf dev2 zslba index)) :
    mismatches numAppends data1 data2 =
      (List.range numAppends).countP fun index =>
        wordOf dev1 zslba index ≠ wordOf dev2 zslba index := by
  rw [mismatches_eq_countP]
  apply List.countP_congr
  intro index member
  have inside := List.mem_range.mp member
  simp only [first index inside, second index inside, ne_eq,
    Option.some.injEq]

/-- Every kept word is the one of the first block. -/
theorem FirstKept.word_eq
    {dev1 dev2 : Device} {zslba : UInt64} {numAppends index : Nat}
    {final : ReadBack}
    (kept : FirstKept dev1 dev2 zslba numAppends final)
    (inside : index < numAppends) :
    final.data1[index]? = some (wordOf dev1 zslba 0) ∧
      final.data2[index]? = some (wordOf dev2 zslba 0) := by
  rw [kept.data1, kept.data2]
  simp only [List.getElem?_replicate, inside, if_true, and_self]

/--
The comparison counts the differences if and only if, on each device, all the
blocks that are read have the first word of the first one.
-/
theorem countsDifferences_iff
    (dev1 dev2 : Device) (zslba : UInt64) (numAppends : Nat)
    (rbuf1 rbuf2 : Memory) :
    CountsDifferences dev1 dev2 zslba numAppends
        (readBack dev1 dev2 zslba numAppends
          (ReadBack.start rbuf1 rbuf2)) ↔
      ∀ index < numAppends,
        wordOf dev1 zslba index = wordOf dev1 zslba 0 ∧
          wordOf dev2 zslba index = wordOf dev2 zslba 0 := by
  have kept := firstKept_readBack dev1 dev2 zslba numAppends rbuf1 rbuf2
  constructor
  · intro counts index inside
    rcases kept.word_eq inside with ⟨first, second⟩
    rw [counts.data1 index inside] at first
    rw [counts.data2 index inside] at second
    exact ⟨Option.some.inj first, Option.some.inj second⟩
  · intro constant
    have first :
        ∀ index < numAppends,
          (readBack dev1 dev2 zslba numAppends
              (ReadBack.start rbuf1 rbuf2)).data1[index]? =
            some (wordOf dev1 zslba index) := by
      intro index inside
      rw [(kept.word_eq inside).1, (constant index inside).1]
    have second :
        ∀ index < numAppends,
          (readBack dev1 dev2 zslba numAppends
              (ReadBack.start rbuf1 rbuf2)).data2[index]? =
            some (wordOf dev2 zslba index) := by
      intro index inside
      rw [(kept.word_eq inside).2, (constant index inside).2]
    exact ⟨first, second, reported_of_data first second⟩

/-- A zone of equal blocks. -/
def constantDevice : Device := fun _ _ => 0

/-- A zone whose blocks begin with their address, modulo 256. -/
def numberedDevice : Device := fun lba _ => lba.toUInt8

/--
Two zones that differ in all blocks but the first one: no mismatch is found.
-/
theorem not_countsDifferences_of_numbered :
    ¬ CountsDifferences numberedDevice constantDevice 0 128000
      (readBack numberedDevice constantDevice 0 128000
        (ReadBack.start (fun _ => 0) (fun _ => 0))) := by
  intro counts
  have kept :=
    (firstKept_readBack numberedDevice constantDevice 0 128000
      (fun _ => 0) (fun _ => 0)).word_eq
      (show 1 < 128000 by decide)
  have sampled := kept.1
  rw [counts.data1 1 (by decide), Option.some.injEq] at sampled
  revert sampled
  decide +kernel

end ZnsBench.ZoneTest.AppendComparison

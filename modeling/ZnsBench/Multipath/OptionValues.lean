import ZnsBench.Multipath.ParseArgs

/-!
# What the options leave in the globals

Of every option the last occurrence counts: a scan that goes through to its
end leaves in each field the converted argument of the last option for it.
Which options came in between, and in which order, does not matter.
-/

namespace ZnsBench.Multipath.OptionValues

open ZnsBench.Core.ByteString
open ZnsBench.Multipath.ParseArgs

universe u

variable {World : Type u}

/-- The argument of the last occurrence of an option. -/
def lastOptarg (op : Op) : List Opt → Option Bytes
  | [] => none
  | option :: rest =>
      (lastOptarg op rest).or
        (if option.op = op then some option.optarg else none)

theorem mem_of_lastOptarg
    {op : Op} {options : List Opt} {word : Bytes}
    (last : lastOptarg op options = some word) :
    ⟨op, word⟩ ∈ options := by
  induction options with
  | nil => cases last
  | cons option rest induction =>
      rw [lastOptarg, Option.or_eq_some_iff] at last
      rcases last with later | ⟨_, here⟩
      · exact List.mem_cons_of_mem _ (induction later)
      · rcases Option.ite_none_right_eq_some.mp here with ⟨same, argument⟩
        rw [Option.some.injEq] at argument
        rw [← same, ← argument]
        exact List.mem_cons_self

/-! ## Fields -/

/-- The field of an option, as a number. -/
def field (letter : Number) (globals : Globals World) : Int :=
  match letter with
  | .a => globals.arbitration.arbitrationMechanism.toNat
  | .b => globals.arbitration.arbitrationConfig.toNat
  | .d => globals.dpdkMem.toInt
  | .i => globals.arbitration.shmId.toInt
  | .l => globals.arbitration.latencyTrackingEnable.toNat
  | .m => globals.arbitration.maxCompletions.toNat
  | .n => globals.arbitration.ioCount.toInt
  | .o => globals.arbitration.ioSizeBytes.toNat
  | .q => globals.arbitration.queueDepth.toInt
  | .t => globals.arbitration.timeInSec.toInt
  | .M => globals.arbitration.rwPercentage.toInt

/-- What a field makes of a `long`. -/
def narrow (letter : Number) (val : Int64) : Int :=
  match letter with
  | .a | .b | .l => val.toUInt64.toUInt8.toNat
  | .m | .o => val.toUInt64.toUInt32.toNat
  | .d | .i | .n | .q | .t | .M => val.toInt32.toInt

/-- The greatest value of a field. -/
def largest : Number → Int
  | .a | .b | .l => 2 ^ 8 - 1
  | .m | .o => 2 ^ 32 - 1
  | .d | .i | .n | .q | .t | .M => 2 ^ 31 - 1

/-- Storing a number changes the field of its option, and no other one. -/
@[simp]
theorem field_store
    (letter other : Number) (val : Int64) (frame : Frame World) :
    field letter (store other val frame).globals =
      if other = letter then
        narrow letter val
      else
        field letter frame.globals := by
  cases letter <;> cases other <;> rfl

theorem narrow_le_largest (letter : Number) (val : Int64) :
    narrow letter val ≤ largest letter := by
  have byte := val.toUInt64.toUInt8.toNat_lt
  have word := val.toUInt64.toUInt32.toNat_lt
  have signed := val.toInt32.toInt_lt
  cases letter <;> simp only [narrow, largest] <;> omega

/-- A field keeps the numbers of its range. -/
theorem narrow_eq
    {letter : Number} {val : Int64}
    (nonneg : 0 ≤ val.toInt) (fits : val.toInt ≤ largest letter) :
    narrow letter val = val.toInt := by
  have unsigned : (val.toUInt64.toNat : Int) = val.toInt := by
    rw [Int64.toNat_toUInt64_of_le (Int64.le_iff_toInt_le.mpr nonneg)]
    exact Int.toNat_of_nonneg nonneg
  have byte : largest letter = 2 ^ 8 - 1 →
      (val.toUInt64.toUInt8.toNat : Int) = val.toInt := by
    intro bound
    rw [UInt64.toNat_toUInt8, Nat.mod_eq_of_lt (by omega), unsigned]
  have word : largest letter = 2 ^ 32 - 1 →
      (val.toUInt64.toUInt32.toNat : Int) = val.toInt := by
    intro bound
    rw [UInt64.toNat_toUInt32, Nat.mod_eq_of_lt (by omega), unsigned]
  have signed : largest letter = 2 ^ 31 - 1 →
      val.toInt32.toInt = val.toInt := by
    intro bound
    rw [Int64.toInt_toInt32]
    exact Int.bmod_eq_of_le (by omega) (by omega)
  cases letter
  case a | b | l => exact byte rfl
  case m | o => exact word rfl
  case d | i | n | q | t | M => exact signed rfl

/-- The fields and the other globals make up the whole state. -/
theorem Frame.ext_of_field
    {first second : Frame World}
    (fields :
      ∀ letter, field letter first.globals = field letter second.globals)
    (random :
      first.globals.arbitration.isRandom =
        second.globals.arbitration.isRandom)
    (coreMask :
      first.globals.arbitration.coreMask =
        second.globals.arbitration.coreMask)
    (workloadType :
      first.globals.arbitration.workloadType =
        second.globals.arbitration.workloadType)
    (segments :
      first.globals.dpdkMemSingleSeg = second.globals.dpdkMemSingleSeg)
    (world : first.globals.world = second.globals.world)
    (mix : first.mixSpecified = second.mixSpecified) :
    first = second := by
  rcases first with ⟨⟨⟨_, _, _, _, _, _, _, _, _, _, _, _, _⟩, _, _, _⟩, _⟩
  rcases second with ⟨⟨⟨_, _, _, _, _, _, _, _, _, _, _, _, _⟩, _, _, _⟩, _⟩
  have mechanism := UInt8.toNat_inj.mp (Int.ofNat_inj.mp (fields .a))
  have config := UInt8.toNat_inj.mp (Int.ofNat_inj.mp (fields .b))
  have mem := Int32.toInt_inj.mp (fields .d)
  have shm := Int32.toInt_inj.mp (fields .i)
  have latency := UInt8.toNat_inj.mp (Int.ofNat_inj.mp (fields .l))
  have completions := UInt32.toNat_inj.mp (Int.ofNat_inj.mp (fields .m))
  have count := Int32.toInt_inj.mp (fields .n)
  have size := UInt32.toNat_inj.mp (Int.ofNat_inj.mp (fields .o))
  have depth := Int32.toInt_inj.mp (fields .q)
  have time := Int32.toInt_inj.mp (fields .t)
  have percentage := Int32.toInt_inj.mp (fields .M)
  simp only at *
  subst mechanism config mem shm latency completions count size depth time
    percentage random coreMask workloadType segments world mix
  rfl

/-! ## Scans -/

/-- What an option does to the state that SPDK keeps. -/
def external (spdk : Spdk World) (world : World) (option : Opt) :
    Option World :=
  match option.op with
  | .r => spdk.transportIdParse world option.optarg
  | .L => spdk.logSetFlag world option.optarg
  | _ => some world

/-- The sign test of an option's number, for `-d` behind the conversion. -/
def PassesSign (spdk : Spdk World) (letter : Number) (word : Bytes) : Prop :=
  if letter = .d then
    0 ≤ narrow .d (spdk.spdkStrtol word)
  else
    0 ≤ (spdk.spdkStrtol word).toInt

/-- A scan over some options that goes through to its end. -/
structure Scanned (spdk : Spdk World) (options : List Opt)
    (before after : Frame World) : Prop where
  fields :
    ∀ letter,
      field letter after.globals =
        match lastOptarg (.number letter) options with
        | none => field letter before.globals
        | some word => narrow letter (spdk.spdkStrtol word)
  random :
    after.globals.arbitration.isRandom =
      before.globals.arbitration.isRandom
  coreMask :
    after.globals.arbitration.coreMask =
      (lastOptarg .c options).getD before.globals.arbitration.coreMask
  workloadType :
    after.globals.arbitration.workloadType =
      (lastOptarg .w options).getD before.globals.arbitration.workloadType
  segments :
    after.globals.dpdkMemSingleSeg =
      (before.globals.dpdkMemSingleSeg || (lastOptarg .g options).isSome)
  mix :
    after.mixSpecified =
      (before.mixSpecified || (lastOptarg (.number .M) options).isSome)
  world :
    options.foldlM (external spdk) before.globals.world =
      some after.globals.world
  signs :
    ∀ option ∈ options, ∀ letter,
      option.op = .number letter → PassesSign spdk letter option.optarg

theorem Scanned.nil (spdk : Spdk World) (frame : Frame World) :
    Scanned spdk [] frame frame where
  fields := fun _ => rfl
  random := rfl
  coreMask := rfl
  workloadType := rfl
  segments := by simp [lastOptarg]
  mix := by simp [lastOptarg]
  world := rfl
  signs := fun _ member => absurd member List.not_mem_nil

theorem Scanned.cons
    {spdk : Spdk World} {option : Opt} {rest : List Opt}
    {before middle after : Frame World}
    (first : Scanned spdk [option] before middle)
    (later : Scanned spdk rest middle after) :
    Scanned spdk (option :: rest) before after where
  fields := by
    intro letter
    have here := first.fields letter
    rw [later.fields letter, lastOptarg]
    simp only [lastOptarg, Option.none_or] at here
    cases lastOptarg (.number letter) rest with
    | some word => simp only [Option.some_or]
    | none => simp only [Option.none_or, here]
  random := later.random.trans first.random
  coreMask := by
    rw [later.coreMask, first.coreMask]
    cases last : lastOptarg .c rest <;> simp [lastOptarg, last]
  workloadType := by
    rw [later.workloadType, first.workloadType]
    cases last : lastOptarg .w rest <;> simp [lastOptarg, last]
  segments := by
    rw [later.segments, first.segments]
    cases last : lastOptarg .g rest <;> simp [lastOptarg, last]
  mix := by
    rw [later.mix, first.mix]
    cases last : lastOptarg (.number .M) rest <;> simp [lastOptarg, last]
  world := by
    have here := first.world
    rw [List.foldlM_cons] at here ⊢
    cases called : external spdk before.globals.world option with
    | none =>
        rw [called] at here
        cases here
    | some world =>
        rw [called] at here
        cases here
        exact later.world
  signs := by
    intro other member letter letterEq
    rcases List.mem_cons.mp member with rfl | rest
    · exact first.signs other List.mem_cons_self letter letterEq
    · exact later.signs other rest letter letterEq

/-- A number below zero, in the type of the test, is below zero. -/
theorem lt_zero_iff (value : Int64) : value < 0 ↔ value.toInt < 0 := by
  rw [Int64.lt_iff_toInt_lt]
  rfl

theorem int32_lt_zero_iff (value : Int32) : value < 0 ↔ value.toInt < 0 := by
  rw [Int32.lt_iff_toInt_lt]
  rfl

/-- Whether the test of an option's number lets the scan go on. -/
@[simp]
theorem processOption_number
    (spdk : Spdk World) (frame : Frame World) (letter : Number)
    (word : Bytes) (passes : PassesSign spdk letter word) :
    processOption spdk frame ⟨.number letter, word⟩ =
      (none, store letter (spdk.spdkStrtol word) frame) := by
  unfold PassesSign at passes
  simp only [processOption]
  split at passes
  · next same =>
    subst same
    have stored :
        ¬ (store .d (spdk.spdkStrtol word) frame).globals.dpdkMem < 0 := by
      rw [int32_lt_zero_iff]
      exact not_lt.mpr passes
    rw [if_pos rfl, if_neg stored]
  · next other =>
    have stored : ¬ spdk.spdkStrtol word < 0 := by
      rw [lt_zero_iff]
      exact not_lt.mpr passes
    rw [if_neg other, if_neg stored]

theorem passesSign_of_processOption
    {spdk : Spdk World} {frame next : Frame World} {letter : Number}
    {word : Bytes}
    (proceeds :
      processOption spdk frame ⟨.number letter, word⟩ = (none, next)) :
    PassesSign spdk letter word := by
  unfold PassesSign
  simp only [processOption] at proceeds
  split at proceeds
  · next same =>
    rw [if_pos same]
    split at proceeds
    · cases proceeds
    · next stored =>
      rw [int32_lt_zero_iff] at stored
      exact not_lt.mp stored
  · next other =>
    rw [if_neg other]
    split at proceeds
    · cases proceeds
    · next stored =>
      rw [lt_zero_iff] at stored
      exact not_lt.mp stored

theorem scanned_store
    {spdk : Spdk World} {letter : Number} {word : Bytes}
    (passes : PassesSign spdk letter word) (frame : Frame World) :
    Scanned spdk [⟨.number letter, word⟩] frame
      (store letter (spdk.spdkStrtol word) frame) where
  fields := by
    intro other
    rw [field_store]
    by_cases same : letter = other <;> simp [lastOptarg, same]
  random := by cases letter <;> rfl
  coreMask := by cases letter <;> rfl
  workloadType := by cases letter <;> rfl
  segments := by cases letter <;> simp [lastOptarg, store]
  mix := by cases letter <;> simp [lastOptarg, store]
  world := by cases letter <;> rfl
  signs := by
    intro option member other same
    rw [List.mem_singleton] at member
    subst member
    cases same
    exact passes

/-- One pass that goes on. -/
theorem scanned_processOption
    {spdk : Spdk World} {frame next : Frame World} {option : Opt}
    (proceeds : processOption spdk frame option = (none, next)) :
    Scanned spdk [option] frame next := by
  rcases option with ⟨op, word⟩
  cases op with
  | number letter =>
      have passes := passesSign_of_processOption proceeds
      rw [processOption_number spdk frame letter word passes] at proceeds
      cases proceeds
      exact scanned_store passes frame
  | h => cases proceeds
  | unrecognised => cases proceeds
  | c | w | g =>
      cases proceeds
      constructor
      all_goals simp [lastOptarg, field, external]
  | r =>
      simp only [processOption] at proceeds
      split at proceeds
      · cases proceeds
      · next world called =>
        cases proceeds
        constructor
        all_goals simp [lastOptarg, field, external, called]
  | L =>
      simp only [processOption] at proceeds
      split at proceeds
      · cases proceeds
      · next world called =>
        cases proceeds
        constructor
        all_goals simp [lastOptarg, field, external, called]

/-- What a scan that goes through to its end leaves behind. -/
theorem scanned_of_scanOptions
    {spdk : Spdk World} {options : List Opt} {before after : Frame World}
    (proceeds : scanOptions spdk options before = (none, after)) :
    Scanned spdk options before after := by
  induction options generalizing before with
  | nil =>
      cases proceeds
      exact Scanned.nil spdk _
  | cons option rest induction =>
      rw [scanOptions] at proceeds
      split at proceeds
      · next middle first =>
        exact (scanned_processOption first).cons (induction proceeds)
      · next stops =>
        rw [proceeds] at stops
        exact absurd rfl (stops after)

end ZnsBench.Multipath.OptionValues

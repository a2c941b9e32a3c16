import ZnsBench.Multipath.OptionValues

/-!
# Are the options stored as they are written?

`parse_args` tests the sign of a `long`, stores it in a narrower field and
checks the field.  A number that does not fit its field changes on the way,
and the checks see the changed one.  A negative number stops the scan with
its low 32 bits for a result, which may be zero.

An accepted command line is stored as written if and only if no number is
negative and the last number of each option fits its field.
-/

namespace ZnsBench.Multipath.OptionFaithfulness

open ZnsBench.Core.ByteString
open ZnsBench.Multipath.ParseArgs
open ZnsBench.Multipath.OptionValues

universe u

variable {World : Type u}

/-- The number that was written as the last argument of an option. -/
def written (spdk : Spdk World) (options : List Opt) (letter : Number) :
    Option Int :=
  (lastOptarg (.number letter) options).bind fun word =>
    (spdk.decimal word).map Int64.toInt

/-- The workload is one for which `-M` counts. -/
def Mixed (options : List Opt) : Prop :=
  isMixed ((lastOptarg .w options).getD (ascii "randrw")) = true

/--
The command line is stored as written: all of it is read, each number of an
option that counts is in its field, and the numbers are in the documented
ranges.  The one for `-M` is documented for `rw` and `randrw`.
-/
structure Faithful (spdk : Spdk World) (options : List Opt)
    (start : Frame World) (final : Globals World) : Prop where
  read : (scanOptions spdk options start).1 = none
  stored :
    ∀ letter word,
      lastOptarg (.number letter) options = some word →
        (letter = .M → Mixed options) →
          written spdk options letter = some (field letter final)
  latency :
    ∀ value,
      written spdk options .l = some value → value = 0 ∨ value = 1
  mechanism :
    ∀ value,
      written spdk options .a = some value →
        value = 0 ∨ value = 1 ∨ value = 7
  config :
    ∀ value,
      written spdk options .b = some value → value = 0 ∨ value = 1
  together :
    written spdk options .b = some 1 → written spdk options .a = some 1
  mix :
    Mixed options →
      ∀ value,
        written spdk options .M = some value → 0 ≤ value ∧ value ≤ 100

/--
The numbers fit: none but that of `-d` is negative anywhere, and the last
ones, which count, are in the ranges of their fields.
-/
structure NumbersFit (spdk : Spdk World) (options : List Opt) : Prop where
  nonneg :
    ∀ option ∈ options, ∀ letter,
      letter ≠ .d →
        option.op = .number letter →
          0 ≤ (spdk.spdkStrtol option.optarg).toInt
  fits :
    ∀ letter word,
      lastOptarg (.number letter) options = some word →
        (letter = .M → Mixed options) →
          0 ≤ (spdk.spdkStrtol word).toInt ∧
            (spdk.spdkStrtol word).toInt ≤ largest letter

/-! ## Results of zero -/

/-- An error code is below zero. -/
theorem decimal_of_spdkStrtol_nonneg
    {spdk : Spdk World} {word : Bytes}
    (nonneg : 0 ≤ (spdk.spdkStrtol word).toInt) :
    spdk.decimal word = some (spdk.spdkStrtol word) := by
  cases number : spdk.decimal word with
  | some value => simp only [Spdk.spdkStrtol, number]
  | none =>
      have positive := spdk.errno_pos word
      have upper := (spdk.errno word).toInt_lt
      simp only [Spdk.spdkStrtol, number] at nonneg
      rw [Int64.toInt_neg, Int32.toInt_toInt64,
        Int.bmod_eq_of_le (by omega) (by omega)] at nonneg
      omega

theorem spdkStrtol_of_decimal
    {spdk : Spdk World} {word : Bytes} {value : Int64}
    (number : spdk.decimal word = some value) :
    spdk.spdkStrtol word = value := by
  simp only [Spdk.spdkStrtol, number]

/-- A pass that ends the scan with a result of zero has a negative number. -/
theorem negative_of_processOption
    {spdk : Spdk World} {frame stopped : Frame World} {option : Opt}
    {printed : List Complaint}
    (stops :
      processOption spdk frame option =
        (some (.returned 0 printed), stopped)) :
    ∃ letter,
      letter ≠ .d ∧
        option.op = .number letter ∧
          (spdk.spdkStrtol option.optarg).toInt < 0 := by
  rcases option with ⟨op, word⟩
  cases op with
  | c | g | w | h | unrecognised => cases stops
  | r =>
      simp only [processOption] at stops
      split at stops <;> cases stops
  | L =>
      simp only [processOption] at stops
      split at stops <;> cases stops
  | number letter =>
      simp only [processOption] at stops
      split at stops
      · split at stops
        · next negative =>
          rw [Prod.mk.injEq, Option.some.injEq, Outcome.returned.injEq]
            at stops
          rw [stops.1.1] at negative
          exact absurd negative (by decide)
        · cases stops
      · next notMemory =>
        split at stops
        · next negative =>
          exact
            ⟨letter, notMemory, rfl, (lt_zero_iff _).mp negative⟩
        · cases stops

theorem negative_of_scanOptions
    {spdk : Spdk World} {options : List Opt} {frame stopped : Frame World}
    {printed : List Complaint}
    (stops :
      scanOptions spdk options frame =
        (some (.returned 0 printed), stopped)) :
    ∃ option ∈ options, ∃ letter,
      letter ≠ .d ∧
        option.op = .number letter ∧
          (spdk.spdkStrtol option.optarg).toInt < 0 := by
  induction options generalizing frame with
  | nil => cases stops
  | cons option rest induction =>
      rw [scanOptions] at stops
      split at stops
      · rcases induction stops with ⟨other, member, negative⟩
        exact ⟨other, List.mem_cons_of_mem _ member, negative⟩
      · exact
          ⟨option, List.mem_cons_self, negative_of_processOption stops⟩

/-- The checks of the fields, as facts about them. -/
structure Checked (arbitration : ArbContext) : Prop where
  latency :
    arbitration.latencyTrackingEnable = 0 ∨
      arbitration.latencyTrackingEnable = 1
  mechanism :
    arbitration.arbitrationMechanism = 0 ∨
      arbitration.arbitrationMechanism = 1 ∨
        arbitration.arbitrationMechanism = 7
  config :
    arbitration.arbitrationConfig = 0 ∨ arbitration.arbitrationConfig = 1
  together :
    arbitration.arbitrationConfig = 1 → arbitration.arbitrationMechanism = 1

theorem checked_of_checkFields
    {arbitration : ArbContext}
    (accepted : (checkFields arbitration).1 = 0) :
    Checked arbitration := by
  unfold checkFields at accepted
  split at accepted
  · cases accepted
  next latency =>
  split at accepted
  · cases accepted
  next mechanism =>
  split at accepted
  · cases accepted
  next config =>
  split at accepted
  · cases accepted
  next together =>
  constructor
  · rcases eq_or_ne arbitration.latencyTrackingEnable 0 with zero | nonzero
    · exact Or.inl zero
    · right
      by_contra other
      exact latency ⟨nonzero, other⟩
  · by_contra other
    exact mechanism other
  · rcases eq_or_ne arbitration.arbitrationConfig 0 with zero | nonzero
    · exact Or.inl zero
    · right
      by_contra other
      exact config ⟨nonzero, other⟩
  · intro one
    by_contra other
    exact together ⟨one, other⟩

/-- Accepted globals are those of the scan, but for two fields. -/
structure Accepted (scanned final : Globals World) : Prop where
  fields : ∀ letter ≠ .M, field letter final = field letter scanned
  mix :
    isMixed scanned.arbitration.workloadType = true →
      field .M final = field .M scanned ∧
        0 ≤ field .M final ∧ field .M final ≤ 100
  checked : Checked final.arbitration

theorem percentageOf_of_mixed
    {workloadType : Bytes} (mixed : isMixed workloadType = true)
    (rwPercentage : Int32) :
    percentageOf workloadType rwPercentage = rwPercentage := by
  have kinds :
      workloadType = ascii "rw" ∨ workloadType = ascii "randrw" := by
    simpa [isMixed, isOneOf] using mixed
  rcases kinds with rfl | rfl
  · rfl
  · rfl

theorem accepted_of_checkArgs
    {frame : Frame World} {printed : List Complaint}
    {final : Globals World}
    (accepted : checkArgs frame = (.returned 0 printed, final)) :
    Accepted frame.globals final := by
  simp only [checkArgs] at accepted
  split at accepted
  · cases accepted
  split at accepted
  · cases accepted
  next inRange =>
  rw [Prod.mk.injEq, Outcome.returned.injEq] at accepted
  rcases accepted with ⟨⟨zero, _⟩, rfl⟩
  constructor
  · intro letter notMix
    cases letter
    case M => exact absurd rfl notMix
    all_goals rfl
  · intro mixed
    rw [percentageOf_of_mixed mixed] at inRange ⊢
    have range :
        ¬ (frame.globals.arbitration.rwPercentage < 0 ∨
          frame.globals.arbitration.rwPercentage > 100) :=
      fun outside => inRange ⟨mixed, outside⟩
    rw [not_or, int32_lt_zero_iff, gt_iff_lt, Int32.lt_iff_toInt_lt]
      at range
    exact ⟨rfl, not_lt.mp range.1, not_lt.mp range.2⟩
  · exact checked_of_checkFields zero

/-! ## Values -/

section Accepted

variable {spdk : Spdk World} {options : List Opt} {world : World}
    {scanned : Frame World} {final : Globals World}

/-- The field of an option that counts is what the scan left there. -/
theorem Accepted.field_eq
    (accepted : Accepted scanned.globals final)
    (scan :
      Scanned spdk options (startFrame spdk (initial world)) scanned)
    {letter : Number} {word : Bytes}
    (last : lastOptarg (.number letter) options = some word)
    (counts : letter = .M → Mixed options) :
    field letter final = narrow letter (spdk.spdkStrtol word) := by
  have scannedField := scan.fields letter
  rw [last] at scannedField
  refine Eq.trans ?_ scannedField
  by_cases mix : letter = .M
  · have mixed :
        isMixed scanned.globals.arbitration.workloadType = true := by
      rw [scan.workloadType]
      exact counts mix
    rw [mix]
    exact (accepted.mix mixed).1
  · exact accepted.fields letter mix

theorem NumbersFit.written_eq
    (fit : NumbersFit spdk options)
    (accepted : Accepted scanned.globals final)
    (scan :
      Scanned spdk options (startFrame spdk (initial world)) scanned)
    {letter : Number} {word : Bytes}
    (last : lastOptarg (.number letter) options = some word)
    (counts : letter = .M → Mixed options) :
    written spdk options letter = some (field letter final) := by
  rcases fit.fits letter word last counts with ⟨nonneg, upper⟩
  have number := decimal_of_spdkStrtol_nonneg nonneg
  simp only [written, last, Option.bind_some, number, Option.map_some]
  rw [accepted.field_eq scan last counts, narrow_eq nonneg upper]

theorem lastOptarg_of_written
    {letter : Number} {value : Int}
    (given : written spdk options letter = some value) :
    ∃ word, lastOptarg (.number letter) options = some word := by
  rcases Option.bind_eq_some_iff.mp given with ⟨word, last, _⟩
  exact ⟨word, last⟩

/-- What a stored number says about the written one. -/
theorem NumbersFit.field_of_written
    (fit : NumbersFit spdk options)
    (accepted : Accepted scanned.globals final)
    (scan :
      Scanned spdk options (startFrame spdk (initial world)) scanned)
    {letter : Number} {value : Int}
    (given : written spdk options letter = some value)
    (counts : letter = .M → Mixed options) :
    field letter final = value := by
  rcases lastOptarg_of_written given with ⟨word, last⟩
  rw [fit.written_eq accepted scan last counts] at given
  exact Option.some.inj given

/-- Numbers that fit are stored as written. -/
theorem NumbersFit.faithful
    (fit : NumbersFit spdk options)
    (accepted : Accepted scanned.globals final)
    (proceeds :
      scanOptions spdk options (startFrame spdk (initial world)) =
        (none, scanned)) :
    Faithful spdk options (startFrame spdk (initial world)) final := by
  have scan := scanned_of_scanOptions proceeds
  constructor
  · rw [proceeds]
  · intro letter word last counts
    exact fit.written_eq accepted scan last counts
  · intro value given
    have stored := fit.field_of_written accepted scan given (by simp)
    rw [← stored]
    rcases accepted.checked.latency with zero | one
    · exact Or.inl (by simp only [field, zero]; rfl)
    · exact Or.inr (by simp only [field, one]; rfl)
  · intro value given
    have stored := fit.field_of_written accepted scan given (by simp)
    rw [← stored]
    rcases accepted.checked.mechanism with zero | one | seven
    · exact Or.inl (by simp only [field, zero]; rfl)
    · exact Or.inr (Or.inl (by simp only [field, one]; rfl))
    · exact Or.inr (Or.inr (by simp only [field, seven]; rfl))
  · intro value given
    have stored := fit.field_of_written accepted scan given (by simp)
    rw [← stored]
    rcases accepted.checked.config with zero | one
    · exact Or.inl (by simp only [field, zero]; rfl)
    · exact Or.inr (by simp only [field, one]; rfl)
  · intro given
    have stored := fit.field_of_written accepted scan given (by simp)
    have config : final.arbitration.arbitrationConfig = 1 :=
      UInt8.toNat_inj.mp (Int.ofNat_inj.mp stored)
    have mechanism : field .a final = 1 := by
      simp only [field, accepted.checked.together config]
      rfl
    cases last : lastOptarg (.number .a) options with
    | some word =>
        rw [fit.written_eq accepted scan last (by simp), mechanism]
    | none =>
        -- The mechanism is still the default one, round robin.
        have roundRobin := scan.fields .a
        rw [last, ← accepted.fields .a (by decide), mechanism] at roundRobin
        have equal : (1 : Int) = 0 := roundRobin
        exact absurd equal (by decide)
  · intro mixed value given
    have stored :=
      fit.field_of_written accepted scan given (fun _ => mixed)
    rw [← stored]
    have workload :
        isMixed scanned.globals.arbitration.workloadType = true := by
      rw [scan.workloadType]
      exact mixed
    exact (accepted.mix workload).2

/-- A number that is stored as written fits. -/
theorem Faithful.numbersFit
    (faithful :
      Faithful spdk options (startFrame spdk (initial world)) final)
    (accepted : Accepted scanned.globals final)
    (proceeds :
      scanOptions spdk options (startFrame spdk (initial world)) =
        (none, scanned)) :
    NumbersFit spdk options := by
  have scan := scanned_of_scanOptions proceeds
  constructor
  · intro option member letter notMemory isNumber
    have passes := scan.signs option member letter isNumber
    rwa [PassesSign, if_neg notMemory] at passes
  · intro letter word last counts
    have stored := faithful.stored letter word last counts
    rw [accepted.field_eq scan last counts] at stored
    simp only [written, last, Option.bind_some, Option.map_eq_some_iff]
      at stored
    rcases stored with ⟨value, number, exact⟩
    rw [spdkStrtol_of_decimal number] at exact ⊢
    have passes : PassesSign spdk letter word :=
      scan.signs _ (mem_of_lastOptarg last) letter rfl
    rw [PassesSign, spdkStrtol_of_decimal number] at passes
    constructor
    · split at passes
      · next same =>
        rw [exact, same]
        exact passes
      · exact passes
    · rw [exact]
      exact narrow_le_largest letter value

end Accepted

/--
An accepted command line is stored as written, within the documented ranges,
if and only if its numbers fit.
-/
theorem faithful_iff_numbersFit
    (spdk : Spdk World) (argv : List Bytes) (world : World)
    (printed : List Complaint) (final : Globals World)
    (accepted :
      parseArgs spdk argv (initial world) = (.returned 0 printed, final)) :
    Faithful spdk (options argv) (startFrame spdk (initial world)) final ↔
      NumbersFit spdk (options argv) := by
  unfold parseArgs at accepted
  split at accepted
  · next scanned proceeds =>
    have checked := accepted_of_checkArgs accepted
    constructor
    · intro faithful
      exact faithful.numbersFit checked proceeds
    · intro fit
      exact fit.faithful checked proceeds
  · next outcome stopped stops =>
    rw [Prod.mk.injEq] at accepted
    rw [accepted.1] at stops
    refine iff_of_false ?_ ?_
    · intro faithful
      have read := faithful.read
      rw [stops] at read
      cases read
    · intro fit
      rcases negative_of_scanOptions stops with
        ⟨option, member, letter, notMemory, isNumber, negative⟩
      have nonneg := fit.nonneg option member letter notMemory isNumber
      omega

/-- Accepted as `-q 8 -M 100`, and stored so. -/
theorem faithful_when_numbers_fit :
    ∃ final,
      Faithful plainSpdk
        (options (["verification", "-q", "8", "-M", "100"].map ascii))
        (startFrame plainSpdk (initial ())) final := by
  have found :
      options (["verification", "-q", "8", "-M", "100"].map ascii) =
        [⟨.number .q, ascii "8"⟩, ⟨.number .M, ascii "100"⟩] :=
    options_spelled (ascii "verification")
      [⟨113, some (ascii "8")⟩, ⟨77, some (ascii "100")⟩] (by decide)
  refine
    ⟨_, (faithful_iff_numbersFit plainSpdk
      (["verification", "-q", "8", "-M", "100"].map ascii) () []
      (parseArgs plainSpdk
        (["verification", "-q", "8", "-M", "100"].map ascii)
        (initial ())).2 (by decide +kernel)).mpr ?_⟩
  rw [found]
  constructor
  · intro option member letter _ _
    simp only [List.mem_cons, List.not_mem_nil, or_false] at member
    rcases member with rfl | rfl
    · decide +kernel
    · decide +kernel
  · intro letter word last _
    have member := mem_of_lastOptarg last
    simp only [List.mem_cons, List.not_mem_nil, or_false, Opt.mk.injEq,
      Op.number.injEq] at member
    rcases member with ⟨rfl, rfl⟩ | ⟨rfl, rfl⟩
    · decide +kernel
    · decide +kernel

/-- `-q 4294967297` is accepted, and the queue depth is 1. -/
theorem not_faithful_when_truncated :
    ∃ final,
      parseArgs plainSpdk (["verification", "-q", "4294967297"].map ascii)
            (initial ()) =
          (.returned 0 [], final) ∧
        final.arbitration.queueDepth = 1 ∧
          ¬ Faithful plainSpdk
            (options (["verification", "-q", "4294967297"].map ascii))
            (startFrame plainSpdk (initial ())) final := by
  refine
    ⟨(parseArgs plainSpdk (["verification", "-q", "4294967297"].map ascii)
      (initial ())).2, by decide +kernel, by decide +kernel, ?_⟩
  intro faithful
  have stored :=
    faithful.stored .q (ascii "4294967297") (by decide +kernel)
      (fun mix => by cases mix)
  revert stored
  decide +kernel

end ZnsBench.Multipath.OptionFaithfulness

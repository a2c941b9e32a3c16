import ZnsBench.Multipath.OptionValues

/-!
# The order of the options

Two argument vectors of well-formed options which agree on the last argument
of every option, and on the sequence of their `-r` and `-L`, end in the same
state and with the same result.  The checks behind the loop see the state
alone.
-/

namespace ZnsBench.Multipath.OptionOrder

open ZnsBench.Core.ByteString
open ZnsBench.Core.Getopt
open ZnsBench.Multipath.ParseArgs
open ZnsBench.Multipath.OptionValues

universe u

variable {World : Type u}

/--
Well-formed options: none is unknown or `-h`, every number is in the range
of its field, and SPDK accepts the arguments of `-r` and `-L` in their order.
-/
structure WellFormed (spdk : Spdk World) (world : World)
    (options : List Opt) : Prop where
  recognised :
    ∀ option ∈ options, option.op ≠ .h ∧ option.op ≠ .unrecognised
  fits :
    ∀ option ∈ options, ∀ letter,
      option.op = .number letter →
        0 ≤ (spdk.spdkStrtol option.optarg).toInt ∧
          (spdk.spdkStrtol option.optarg).toInt ≤ largest letter
  accepted :
    (options.foldlM (external spdk) (spdk.populate world)).isSome

/-- The options that change the state of SPDK. -/
def isExternal (option : Opt) : Bool :=
  option.op = .r || option.op = .L

/-- The vectors agree on the last arguments, and on all `-r` and `-L`. -/
structure SameOptions (first second : List Opt) : Prop where
  last :
    ∀ op, op ≠ .r → op ≠ .L → lastOptarg op first = lastOptarg op second
  external : first.filter isExternal = second.filter isExternal

/-- Only `-r` and `-L` matter to the state of SPDK. -/
theorem foldlM_external
    (spdk : Spdk World) (options : List Opt) (world : World) :
    options.foldlM (external spdk) world =
      (options.filter isExternal).foldlM (external spdk) world := by
  induction options generalizing world with
  | nil => rfl
  | cons option rest induction =>
      rcases option with ⟨op, word⟩
      cases op
      case r | L =>
        rw [List.filter_cons_of_pos (by rfl), List.foldlM_cons,
          List.foldlM_cons]
        cases external spdk world _ with
        | none => rfl
        | some next => exact induction next
      all_goals
        rw [List.filter_cons_of_neg (by simp [isExternal]), List.foldlM_cons]
        exact induction world

theorem passesSign_of_fits
    {spdk : Spdk World} {letter : Number} {word : Bytes}
    (nonneg : 0 ≤ (spdk.spdkStrtol word).toInt)
    (fits : (spdk.spdkStrtol word).toInt ≤ largest letter) :
    PassesSign spdk letter word := by
  unfold PassesSign
  split
  · next same =>
    subst same
    rw [narrow_eq nonneg fits]
    exact nonneg
  · exact nonneg

/-- A well-formed option lets the scan go on. -/
theorem processOption_proceeds
    {spdk : Spdk World} (frame : Frame World) {option : Opt}
    (recognised : option.op ≠ .h ∧ option.op ≠ .unrecognised)
    (fits :
      ∀ letter,
        option.op = .number letter →
          0 ≤ (spdk.spdkStrtol option.optarg).toInt ∧
            (spdk.spdkStrtol option.optarg).toInt ≤ largest letter)
    (accepted : (external spdk frame.globals.world option).isSome) :
    ∃ next, processOption spdk frame option = (none, next) := by
  rcases option with ⟨op, word⟩
  cases op with
  | number letter =>
      rcases fits letter rfl with ⟨nonneg, upper⟩
      exact
        ⟨_, processOption_number spdk frame letter word
          (passesSign_of_fits nonneg upper)⟩
  | c | g | w => exact ⟨_, rfl⟩
  | h => exact absurd rfl recognised.1
  | unrecognised => exact absurd rfl recognised.2
  | r =>
      rcases Option.isSome_iff_exists.mp accepted with ⟨world, called⟩
      simp only [external] at called
      simp only [processOption, called]
      exact ⟨_, rfl⟩
  | L =>
      rcases Option.isSome_iff_exists.mp accepted with ⟨world, called⟩
      simp only [external] at called
      simp only [processOption, called]
      exact ⟨_, rfl⟩

theorem scanOptions_proceeds
    {spdk : Spdk World} {options : List Opt} (frame : Frame World)
    (recognised :
      ∀ option ∈ options, option.op ≠ .h ∧ option.op ≠ .unrecognised)
    (fits :
      ∀ option ∈ options, ∀ letter,
        option.op = .number letter →
          0 ≤ (spdk.spdkStrtol option.optarg).toInt ∧
            (spdk.spdkStrtol option.optarg).toInt ≤ largest letter)
    (accepted :
      (options.foldlM (external spdk) frame.globals.world).isSome) :
    ∃ after, scanOptions spdk options frame = (none, after) := by
  induction options generalizing frame with
  | nil => exact ⟨frame, rfl⟩
  | cons option rest induction =>
      rw [List.foldlM_cons] at accepted
      cases called : external spdk frame.globals.world option with
      | none =>
          rw [called] at accepted
          cases accepted
      | some world =>
          rw [called] at accepted
          rcases processOption_proceeds frame
              (recognised option List.mem_cons_self)
              (fits option List.mem_cons_self)
              (by rw [called]; rfl) with
            ⟨next, proceeds⟩
          have stepped := (scanned_processOption proceeds).world
          rw [List.foldlM_cons, called] at stepped
          have reached : world = next.globals.world :=
            Option.some.inj stepped
          rw [reached] at accepted
          rw [scanOptions, proceeds]
          exact
            induction next
              (fun other member =>
                recognised other (List.mem_cons_of_mem _ member))
              (fun other member =>
                fits other (List.mem_cons_of_mem _ member))
              accepted

/-- With well-formed options the checks decide. -/
theorem WellFormed.parseArgs_eq
    {spdk : Spdk World} {globals : Globals World} {argv : List Bytes}
    (wellFormed : WellFormed spdk globals.world (options argv)) :
    ∃ after,
      Scanned spdk (options argv) (startFrame spdk globals) after ∧
        parseArgs spdk argv globals = checkArgs after := by
  rcases scanOptions_proceeds (startFrame spdk globals)
      wellFormed.recognised wellFormed.fits wellFormed.accepted with
    ⟨after, proceeds⟩
  refine ⟨after, scanned_of_scanOptions proceeds, ?_⟩
  simp only [parseArgs, proceeds]

/-- Scans of vectors that agree end in the same frame. -/
theorem SameOptions.frame_eq
    {spdk : Spdk World} {first second : List Opt}
    (same : SameOptions first second)
    {before firstAfter secondAfter : Frame World}
    (firstScanned : Scanned spdk first before firstAfter)
    (secondScanned : Scanned spdk second before secondAfter) :
    firstAfter = secondAfter := by
  apply Frame.ext_of_field
  · intro letter
    rw [firstScanned.fields, secondScanned.fields,
      same.last (.number letter) (by simp) (by simp)]
  · rw [firstScanned.random, secondScanned.random]
  · rw [firstScanned.coreMask, secondScanned.coreMask,
      same.last .c (by decide) (by decide)]
  · rw [firstScanned.workloadType, secondScanned.workloadType,
      same.last .w (by decide) (by decide)]
  · rw [firstScanned.segments, secondScanned.segments,
      same.last .g (by decide) (by decide)]
  · have firstWorld := firstScanned.world
    have secondWorld := secondScanned.world
    rw [foldlM_external] at firstWorld secondWorld
    rw [same.external, secondWorld] at firstWorld
    exact (Option.some.inj firstWorld).symm
  · rw [firstScanned.mix, secondScanned.mix,
      same.last (.number .M) (by decide) (by decide)]

/-! ## The checks -/

/-- The two fields that `-w` and `-M` decide, once the checks accept. -/
theorem mix_of_checkArgs
    {frame : Frame World} {printed : List Complaint}
    {final : Globals World}
    (accepted : checkArgs frame = (.returned 0 printed, final)) :
    final.arbitration.rwPercentage =
        percentageOf frame.globals.arbitration.workloadType
          frame.globals.arbitration.rwPercentage ∧
      final.arbitration.isRandom =
        isRandomOf frame.globals.arbitration.workloadType := by
  simp only [checkArgs] at accepted
  split at accepted
  · cases accepted
  · split at accepted
    · cases accepted
    · rw [Prod.mk.injEq] at accepted
      rw [← accepted.2]
      exact ⟨rfl, rfl⟩

/--
Vectors of well-formed options that agree give the same result and the same
globals.  The share of reads and the randomness only need the same last `-w`
and `-M`.
-/
theorem parseArgs_order_irrelevant
    (spdk : Spdk World) (globals : Globals World)
    (first second : List Bytes)
    (firstFormed : WellFormed spdk globals.world (options first))
    (secondFormed : WellFormed spdk globals.world (options second)) :
    (SameOptions (options first) (options second) →
        parseArgs spdk first globals = parseArgs spdk second globals) ∧
      (lastOptarg .w (options first) = lastOptarg .w (options second) →
        lastOptarg (.number .M) (options first) =
            lastOptarg (.number .M) (options second) →
          ∀ firstPrinted firstFinal secondPrinted secondFinal,
            parseArgs spdk first globals =
                (.returned 0 firstPrinted, firstFinal) →
              parseArgs spdk second globals =
                  (.returned 0 secondPrinted, secondFinal) →
                firstFinal.arbitration.rwPercentage =
                    secondFinal.arbitration.rwPercentage ∧
                  firstFinal.arbitration.isRandom =
                    secondFinal.arbitration.isRandom) := by
  rcases firstFormed.parseArgs_eq with
    ⟨firstAfter, firstScanned, firstChecked⟩
  rcases secondFormed.parseArgs_eq with
    ⟨secondAfter, secondScanned, secondChecked⟩
  constructor
  · intro same
    rw [firstChecked, secondChecked,
      same.frame_eq firstScanned secondScanned]
  · intro sameWorkload sameMix firstPrinted firstFinal secondPrinted
      secondFinal firstAccepted secondAccepted
    have workload :
        firstAfter.globals.arbitration.workloadType =
          secondAfter.globals.arbitration.workloadType := by
      rw [firstScanned.workloadType, secondScanned.workloadType,
        sameWorkload]
    have percentage :
        firstAfter.globals.arbitration.rwPercentage =
          secondAfter.globals.arbitration.rwPercentage := by
      have firstField := firstScanned.fields .M
      have secondField := secondScanned.fields .M
      rw [sameMix, ← secondField] at firstField
      exact Int32.toInt_inj.mp firstField
    rw [firstChecked] at firstAccepted
    rw [secondChecked] at secondAccepted
    rcases mix_of_checkArgs firstAccepted with ⟨firstMix, firstRandom⟩
    rcases mix_of_checkArgs secondAccepted with ⟨secondMix, secondRandom⟩
    rw [firstMix, secondMix, firstRandom, secondRandom, workload, percentage]
    exact ⟨rfl, rfl⟩

/--
The options of `-a 1 -b 1 -g -M 30` and `-M 7 -b 1 -gM 30 -a 1`: both store a
share of 30 and the mechanism 1.
-/
theorem parseArgs_of_reordered_options :
    parseArgs plainSpdk
        (["verification", "-a", "1", "-b", "1", "-g", "-M", "30"].map ascii)
        (initial ()) =
      parseArgs plainSpdk
        (["verification", "-M", "7", "-b1", "-gM", "30", "-a1"].map ascii)
        (initial ()) ∧
      (parseArgs plainSpdk
        (["verification", "-M", "7", "-b1", "-gM", "30", "-a1"].map ascii)
        (initial ())).2.arbitration.rwPercentage = 30 ∧
      (parseArgs plainSpdk
        (["verification", "-M", "7", "-b1", "-gM", "30", "-a1"].map ascii)
        (initial ())).2.arbitration.arbitrationMechanism = 1 := by
  have firstOptions :
      options
          (["verification", "-a", "1", "-b", "1", "-g", "-M", "30"].map
            ascii) =
        [⟨.number .a, ascii "1"⟩, ⟨.number .b, ascii "1"⟩, ⟨.g, []⟩,
          ⟨.number .M, ascii "30"⟩] :=
    options_spelled (ascii "verification")
      [⟨97, some (ascii "1")⟩, ⟨98, some (ascii "1")⟩, ⟨103, none⟩,
        ⟨77, some (ascii "30")⟩]
      (by decide)
  have secondOptions :
      options
          (["verification", "-M", "7", "-b1", "-gM", "30", "-a1"].map
            ascii) =
        [⟨.number .M, ascii "7"⟩, ⟨.number .b, ascii "1"⟩, ⟨.g, []⟩,
          ⟨.number .M, ascii "30"⟩, ⟨.number .a, ascii "1"⟩] := by
    decide +kernel
  refine
    ⟨(parseArgs_order_irrelevant plainSpdk (initial ()) _ _ ?_ ?_).1 ?_,
      by decide +kernel, by decide +kernel⟩
  · rw [firstOptions]
    constructor
    · decide
    · simp only [List.mem_cons, List.not_mem_nil, or_false, forall_eq_or_imp,
        forall_eq, Op.number.injEq, reduceCtorEq, false_implies,
        implies_true, true_and, forall_eq']
      decide +kernel
    · rfl
  · rw [secondOptions]
    constructor
    · decide
    · simp only [List.mem_cons, List.not_mem_nil, or_false, forall_eq_or_imp,
        forall_eq, Op.number.injEq, reduceCtorEq, false_implies,
        implies_true, true_and, forall_eq']
      decide +kernel
    · rfl
  · rw [firstOptions, secondOptions]
    constructor
    · intro op _ _
      rcases op with letter | _ | _ | _ | _ | _ | _ | _
      · cases letter <;> rfl
      all_goals rfl
    · rfl

end ZnsBench.Multipath.OptionOrder

import Mathlib.Data.UInt
import ZnsBench.Core.Getopt

/-!
# The command line of the verifier

`parse_args` goes through the options that `getopt` finds, stores their
arguments in the fields of `g_arbitration` and checks the fields afterwards.
Numbers are converted to a `long` and then stored in fields of 8 or 32 bits;
nothing is checked in between but the sign.

`spdk_strtol`, the parser of transport identifiers and the log flags are
SPDK's.  They are parameters here.
-/

namespace ZnsBench.Multipath.ParseArgs

open ZnsBench.Core.ByteString
open ZnsBench.Core.Getopt

universe u

/-! ## Options -/

/-- The options with a number for an argument. -/
inductive Number where
  | a | b | d | i | l | m | n | o | q | t | M
  deriving DecidableEq, Repr

/-- The cases of the `switch`; `unrecognised` stands for a question mark. -/
inductive Op where
  | number (letter : Number)
  | c | g | h | r | w | L
  | unrecognised
  deriving DecidableEq, Repr

/-- The case that a value of `getopt` selects. -/
def Op.ofByte (byte : UInt8) : Op :=
  match Char.ofNat byte.toNat with
  | 'a' => .number .a
  | 'b' => .number .b
  | 'c' => .c
  | 'd' => .number .d
  | 'g' => .g
  | 'h' => .h
  | 'i' => .number .i
  | 'l' => .number .l
  | 'm' => .number .m
  | 'n' => .number .n
  | 'o' => .number .o
  | 'q' => .number .q
  | 'r' => .r
  | 't' => .number .t
  | 'w' => .w
  | 'M' => .number .M
  | 'L' => .L
  | _ => .unrecognised

/-- One pass of the loop: what `getopt` returned, and `optarg`. -/
structure Opt where
  op : Op
  optarg : Bytes
  deriving DecidableEq, Repr

/-- The third argument of `getopt`. -/
def optstring : Bytes := ascii "a:b:c:d:ghi:l:m:n:o:q:r:t:w:M:L:"

/-- The passes of the loop over an argument vector. -/
def options (argv : List Bytes) : List Opt :=
  (getopt optstring argv.tail).map fun found =>
    ⟨Op.ofByte found.op, found.optarg.getD []⟩

/-- Options that are spelled out are the passes of the loop. -/
theorem options_spelled
    (program : Bytes) (given : List Found)
    (valid : ∀ found ∈ given, Valid optstring found) :
    options (program :: given.flatMap spelled) =
      given.map fun found =>
        ⟨Op.ofByte found.op, found.optarg.getD []⟩ := by
  rw [options, List.tail_cons, getopt_flatMap_spelled valid]

/-! ## State -/

/-- The fields of `g_arbitration` that `parse_args` reads or writes. -/
structure ArbContext where
  shmId : Int32
  rwPercentage : Int32
  isRandom : Int32
  queueDepth : Int32
  timeInSec : Int32
  ioCount : Int32
  latencyTrackingEnable : UInt8
  arbitrationMechanism : UInt8
  arbitrationConfig : UInt8
  ioSizeBytes : UInt32
  maxCompletions : UInt32
  coreMask : Bytes
  workloadType : Bytes
  deriving DecidableEq, Repr

/--
The globals.  `world` is `g_trid` and the log flags, which only functions of
SPDK look into.
-/
structure Globals (World : Type u) where
  arbitration : ArbContext
  dpdkMem : Int32
  dpdkMemSingleSeg : Bool
  world : World
  deriving DecidableEq, Repr

/-- The initialisers of the globals. -/
def initial {World : Type u} (world : World) : Globals World where
  arbitration :=
    { shmId := -1
      rwPercentage := 50
      isRandom := 0
      queueDepth := 1
      timeInSec := 1
      ioCount := 1000000
      latencyTrackingEnable := 0
      arbitrationMechanism := 0
      arbitrationConfig := 0
      ioSizeBytes := 4096
      maxCompletions := 0
      coreMask := ascii "0x1"
      workloadType := ascii "randrw" }
  dpdkMem := 0
  dpdkMemSingleSeg := false
  world := world

/--
What SPDK does for `parse_args`.  A word is a decimal number that fits a
`long` or has an error code.
-/
structure Spdk (World : Type u) where
  decimal : Bytes → Option Int64
  errno : Bytes → Int32
  errno_pos : ∀ word, 0 < (errno word).toInt
  /-- `spdk_nvme_trid_populate_transport`, and the discovery subsystem. -/
  populate : World → World
  transportIdParse : World → Bytes → Option World
  logSetFlag : World → Bytes → Option World

variable {World : Type u}

/-- `spdk_strtol(word, 10)`: the number, or a negative error. -/
def Spdk.spdkStrtol (spdk : Spdk World) (word : Bytes) : Int64 :=
  match spdk.decimal word with
  | some value => value
  | none => -(spdk.errno word).toInt64

/--
What is printed: the usage to the standard output, the rest to the error
stream.
-/
inductive Complaint where
  | invalidDpdkMemorySize
  | errorParsingTransportAddress
  | unknownFlag
  | convertingFailed
  | usage
  | ioPatternType
  | ignoringMixOption
  | mixOutOfRange
  | latencyTrackingOutOfRange
  | mechanismOutOfRange
  | configOutOfRange
  | configWithoutWrr
  deriving DecidableEq, Repr

/-- How `parse_args` ends. -/
inductive Outcome where
  | returned (result : Int32) (printed : List Complaint)
  /-- `exit(EXIT_FAILURE)`. -/
  | exited (printed : List Complaint)
  deriving DecidableEq, Repr

/-- The globals and the local `mix_specified`. -/
structure Frame (World : Type u) where
  globals : Globals World
  mixSpecified : Bool
  deriving DecidableEq, Repr

/-! ## The loop -/

/--
The assignments of the inner `switch`, with their conversions.  No option
of the option string reaches its default case.
-/
def store (letter : Number) (val : Int64) (frame : Frame World) :
    Frame World :=
  let globals := frame.globals
  let arbitration := globals.arbitration
  match letter with
  | .a =>
      { frame with globals.arbitration :=
          { arbitration with
            arbitrationMechanism := val.toUInt64.toUInt8 } }
  | .b =>
      { frame with globals.arbitration :=
          { arbitration with arbitrationConfig := val.toUInt64.toUInt8 } }
  | .d => { frame with globals.dpdkMem := val.toInt32 }
  | .i =>
      { frame with globals.arbitration :=
          { arbitration with shmId := val.toInt32 } }
  | .l =>
      { frame with globals.arbitration :=
          { arbitration with
            latencyTrackingEnable := val.toUInt64.toUInt8 } }
  | .m =>
      { frame with globals.arbitration :=
          { arbitration with maxCompletions := val.toUInt64.toUInt32 } }
  | .n =>
      { frame with globals.arbitration :=
          { arbitration with ioCount := val.toInt32 } }
  | .o =>
      { frame with globals.arbitration :=
          { arbitration with ioSizeBytes := val.toUInt64.toUInt32 } }
  | .q =>
      { frame with globals.arbitration :=
          { arbitration with queueDepth := val.toInt32 } }
  | .t =>
      { frame with globals.arbitration :=
          { arbitration with timeInSec := val.toInt32 } }
  | .M =>
      { globals :=
          { globals with arbitration :=
              { arbitration with rwPercentage := val.toInt32 } }
        mixSpecified := true }

/-- One pass of the loop: where it stops, if it does, and the state. -/
def processOption (spdk : Spdk World) (frame : Frame World) (option : Opt) :
    Option Outcome × Frame World :=
  match option.op with
  | .c =>
      (none,
        { frame with globals.arbitration.coreMask := option.optarg })
  | .w =>
      (none,
        { frame with globals.arbitration.workloadType := option.optarg })
  | .r =>
      match spdk.transportIdParse frame.globals.world option.optarg with
      | none =>
          (some (.returned 1 [.errorParsingTransportAddress]), frame)
      | some world => (none, { frame with globals.world := world })
  | .g => (none, { frame with globals.dpdkMemSingleSeg := true })
  | .h => (some (.returned 1 [.usage]), frame)
  | .unrecognised => (some (.returned 1 [.usage]), frame)
  | .L =>
      match spdk.logSetFlag frame.globals.world option.optarg with
      | none => (some (.exited [.unknownFlag, .usage]), frame)
      | some world => (none, { frame with globals.world := world })
  | .number letter =>
      let val := spdk.spdkStrtol option.optarg
      if letter = .d then
        -- The field of 32 bits is tested, not the value.
        let stored := store .d val frame
        if stored.globals.dpdkMem < 0 then
          (some
              (.returned stored.globals.dpdkMem [.invalidDpdkMemorySize]),
            stored)
        else
          (none, stored)
      else if val < 0 then
        (some (.returned val.toInt32 [.convertingFailed]), frame)
      else
        (none, store letter val frame)

/-- The loop over the options, up to the first that ends it. -/
def scanOptions (spdk : Spdk World) :
    List Opt → Frame World → Option Outcome × Frame World
  | [], frame => (none, frame)
  | option :: rest, frame =>
      match processOption spdk frame option with
      | (none, next) => scanOptions spdk rest next
      | stopped => stopped

/-! ## The checks -/

/-- `strcmp` finds the text equal to one of some names. -/
def isOneOf (names : List String) (text : Bytes) : Bool :=
  names.any fun name => text == ascii name

/-- The workloads for which `-M` counts. -/
def isMixed (workloadType : Bytes) : Bool :=
  isOneOf ["rw", "randrw"] workloadType

/-- The value of `rw_percentage` after the scan. -/
def percentageOf (workloadType : Bytes) (rwPercentage : Int32) : Int32 :=
  if isOneOf ["read", "randread"] workloadType then
    100
  else if isOneOf ["write", "randwrite"] workloadType then
    0
  else
    rwPercentage

/-- The value of `is_random` for a type of workload. -/
def isRandomOf (workloadType : Bytes) : Int32 :=
  if isOneOf ["read", "write", "rw"] workloadType then 0 else 1

/-- The checks of single fields, which come last. -/
def checkFields (arbitration : ArbContext) : Int32 × List Complaint :=
  if arbitration.latencyTrackingEnable ≠ 0 ∧
      arbitration.latencyTrackingEnable ≠ 1 then
    (1, [.latencyTrackingOutOfRange])
  else if ¬ (arbitration.arbitrationMechanism = 0 ∨
      arbitration.arbitrationMechanism = 1 ∨
        arbitration.arbitrationMechanism = 7) then
    (1, [.mechanismOutOfRange])
  else if arbitration.arbitrationConfig ≠ 0 ∧
      arbitration.arbitrationConfig ≠ 1 then
    (1, [.configOutOfRange])
  else if arbitration.arbitrationConfig = 1 ∧
      arbitration.arbitrationMechanism ≠ 1 then
    (1, [.configWithoutWrr])
  else
    (0, [])

/-- `parse_args` behind its loop. -/
def checkArgs (frame : Frame World) : Outcome × Globals World :=
  let globals := frame.globals
  let workloadType := globals.arbitration.workloadType
  if ¬ isOneOf ["read", "write", "randread", "randwrite", "rw", "randrw"]
      workloadType then
    (.returned 1 [.ioPatternType], globals)
  else
    let percentage :=
      percentageOf workloadType globals.arbitration.rwPercentage
    let warning : List Complaint :=
      if ¬ isMixed workloadType ∧ frame.mixSpecified then
        [.ignoringMixOption]
      else
        []
    let mixed :=
      { globals with arbitration.rwPercentage := percentage }
    if isMixed workloadType ∧
        (percentage < 0 ∨ percentage > 100) then
      (.returned 1 [.mixOutOfRange], mixed)
    else
      let final :=
        { mixed with arbitration.isRandom := isRandomOf workloadType }
      let checked := checkFields final.arbitration
      (.returned checked.1 (warning ++ checked.2), final)

/-- The frame in which `parse_args` enters its loop. -/
def startFrame (spdk : Spdk World) (globals : Globals World) :
    Frame World :=
  ⟨{ globals with world := spdk.populate globals.world }, false⟩

/-- `parse_args`: how it ends, and the globals. -/
def parseArgs (spdk : Spdk World) (argv : List Bytes)
    (globals : Globals World) : Outcome × Globals World :=
  match scanOptions spdk (options argv) (startFrame spdk globals) with
  | (none, scanned) => checkArgs scanned
  | (some outcome, stopped) => (outcome, stopped.globals)

/-! ## SPDK without devices and log flags -/

/-- A word of digits with an optional sign, when its number fits. -/
def plainDecimal (word : Bytes) : Option Int64 :=
  let (negative, digits) :=
    match word with
    | 45 :: digits => (true, digits)
    | digits => (false, digits)
  if digits ≠ [] ∧ digits.all fun digit => 48 ≤ digit && digit ≤ 57 then
    let magnitude : Int :=
      digits.foldl (fun value digit => 10 * value + (digit.toNat - 48)) 0
    let number := if negative then -magnitude else magnitude
    if -2 ^ 63 ≤ number ∧ number < 2 ^ 63 then
      some (Int64.ofInt number)
    else
      none
  else
    none

/-- The error is `EINVAL`; every transport and log flag is accepted. -/
def plainSpdk : Spdk Unit where
  decimal := plainDecimal
  errno := fun _ => 22
  errno_pos := fun _ => by decide
  populate := id
  transportIdParse := fun world _ => some world
  logSetFlag := fun world _ => some world

end ZnsBench.Multipath.ParseArgs

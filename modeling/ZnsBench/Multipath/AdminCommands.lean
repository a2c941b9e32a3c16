import ZnsBench.Core.GuardedRun

/-!
# Admin commands of the verifier

`verification.cc` keeps one counter of admin commands for all controllers.
`register_ctrlr`, `print_latency_statistics` and `unregister_controllers`
issue the commands, and poll until the counter is zero.

What a running call has still to do is a list of instructions, the next one
first.  The environment chooses which call comes next, what every submission
returns, and which command of a polled controller completes, with which
status.
-/

namespace ZnsBench.Multipath.AdminCommands

open ZnsBench.Core.GuardedRun

/-- The latency pages of `spdk_nvme_intel_log_page`. -/
inductive LogPage where
  | readCmdLatency
  | writeCmdLatency
  deriving DecidableEq, Repr

/-- A controller with what it says it supports. -/
structure Ctrlr where
  id : Nat
  latencyTracking : Bool
  /-- The field of the capability register, `cap.bits.ams`. -/
  ams : UInt8
  logPages : List LogPage
  deriving DecidableEq, Repr

/-- The part of `g_arbitration` that `parse_args` has set. -/
structure Settings where
  latencyTrackingEnable : UInt8
  arbitrationMechanism : UInt8
  arbitrationConfig : UInt8
  deriving DecidableEq, Repr

/-- `SPDK_NVME_CAP_AMS_WRR`, both a mechanism and a bit of `ams`. -/
def capAmsWrr : UInt8 := 1

/-- `features[SPDK_NVME_FEAT_ARBITRATION]`. -/
structure Feature where
  result : UInt32
  valid : Bool
  deriving DecidableEq, Repr

/-- The bits of `feat_arbitration`, zero unless they are set. -/
structure FeatArbitration where
  ab : UInt8 := 0
  lpw : UInt8 := 0
  mpw : UInt8 := 0
  hpw : UInt8 := 0
  deriving DecidableEq, Repr

/-- An unlimited burst and the `USER_SPECIFIED` weights. -/
def userSpecified : FeatArbitration where
  ab := 7
  lpw := 8
  mpw := 16
  hpw := 32

/-- What an admin command asks the controller for. -/
inductive Request where
  | setLatencyTracking (enable : Bool)
  | getFeature
  | setFeature (bits : FeatArbitration)
  | getLogPage (page : LogPage)
  deriving DecidableEq, Repr

/-- A command and the controller it is submitted to. -/
structure AdminCommand where
  ctrlr : Ctrlr
  request : Request
  deriving DecidableEq, Repr

/-- Where a polling loop is. -/
inductive Phase where
  | atTest
  | processing
  deriving DecidableEq, Repr

/-- What the program still has to run, call by call. -/
inductive Instruction where
  | setLatencyTrackingFeature (ctrlr : Ctrlr) (enable : Bool)
  | getArbFeature (ctrlr : Ctrlr)
  | setArbFeature (ctrlr : Ctrlr)
  /-- One round of the first loop of `print_latency_statistics`. -/
  | cmdGetLogPage (ctrlr : Ctrlr) (page : LogPage)
  /-- A loop that processes the completions of some controllers. -/
  | poll (phase : Phase) (ctrlrs : List Ctrlr)
  deriving DecidableEq, Repr

/-- The state that the admin commands of the program share. -/
structure Admin where
  outstandingCommands : Int32
  feature : Feature
  /-- `g_controllers`. -/
  controllers : List Ctrlr
  inFlight : List AdminCommand
  control : List Instruction
  /-- The process has ended by `exit(1)`. -/
  exited : Bool
  deriving DecidableEq, Repr

/-- The program before its first controller is registered. -/
def initial : Admin where
  outstandingCommands := 0
  feature := ⟨0, false⟩
  controllers := []
  inFlight := []
  control := []
  exited := false

/-! ## The calls -/

/-- When `set_latency_tracking_feature` is called at all. -/
def tracksLatency (settings : Settings) (ctrlr : Ctrlr) : Bool :=
  settings.latencyTrackingEnable ≠ 0 && ctrlr.latencyTracking

/-- The commands of `register_ctrlr`, in their order. -/
def registration (settings : Settings) (ctrlr : Ctrlr) :
    List Instruction :=
  (if tracksLatency settings ctrlr then
      [.setLatencyTrackingFeature ctrlr true]
    else
      []) ++
    if settings.arbitrationMechanism = capAmsWrr ∧
        ctrlr.ams &&& capAmsWrr ≠ 0 then
      .getArbFeature ctrlr ::
        if settings.arbitrationConfig ≠ 0 then
          [.setArbFeature ctrlr, .getArbFeature ctrlr]
        else
          []
    else
      []

/-- `register_ctrlr`, which ends the process when it has no memory. -/
def registerCtrlr (settings : Settings) (ctrlr : Ctrlr)
    (allocated : Bool) (admin : Admin) : Admin :=
  if allocated then
    { admin with
      controllers := admin.controllers ++ [ctrlr]
      control := registration settings ctrlr }
  else
    { admin with exited := true }

/-- The controllers that support a page, in the order of the list. -/
def supporting (page : LogPage) (controllers : List Ctrlr) : List Ctrlr :=
  controllers.filter fun ctrlr => page ∈ ctrlr.logPages

/-- `print_latency_statistics`: the commands and then the polls. -/
def printLatencyStatistics (page : LogPage) (admin : Admin) : Admin :=
  { admin with
    control :=
      (supporting page admin.controllers).map
          (fun ctrlr => .cmdGetLogPage ctrlr page) ++
        [.poll .atTest admin.controllers] }

/-- Nothing reads the list while `unregister_controllers` empties it. -/
def unregisterControllers (settings : Settings) (admin : Admin) : Admin :=
  { admin with
    controllers := []
    control :=
      (admin.controllers.filter (tracksLatency settings)).map
        fun ctrlr => .setLatencyTrackingFeature ctrlr false }

/-! ## Submissions and completions -/

/-- SPDK accepts a command. -/
def issue (ctrlr : Ctrlr) (request : Request) (admin : Admin) : Admin :=
  { admin with inFlight := admin.inFlight ++ [⟨ctrlr, request⟩] }

/-- The counter goes up and the caller polls one controller. -/
def countAndPoll (ctrlr : Ctrlr) (rest : List Instruction)
    (admin : Admin) : Admin :=
  { admin with
    outstandingCommands := admin.outstandingCommands + 1
    control := .poll .atTest [ctrlr] :: rest }

/-- `set_latency_tracking_feature` -/
def setLatencyTrackingFeature (ctrlr : Ctrlr) (enable : Bool) (rc : Int)
    (rest : List Instruction) (admin : Admin) : Admin :=
  if rc ≠ 0 then
    { admin with control := rest }
  else
    countAndPoll ctrlr rest
      (issue ctrlr (.setLatencyTracking enable) admin)

/-- `get_feature` returns `rc`. -/
def getFeature (ctrlr : Ctrlr) (rc : Int) (admin : Admin) : Admin :=
  let invalid :=
    { admin with feature := { admin.feature with valid := false } }
  if rc = 0 then issue ctrlr .getFeature invalid else invalid

/-- The result of `get_feature` is not looked at. -/
def getArbFeature (ctrlr : Ctrlr) (rc : Int) (rest : List Instruction)
    (admin : Admin) : Admin :=
  countAndPoll ctrlr rest (getFeature ctrlr rc admin)

/-- `set_arb_feature`, with the values of the user for a valid feature. -/
def setArbFeature (ctrlr : Ctrlr) (rc : Int) (rest : List Instruction)
    (admin : Admin) : Admin :=
  let cleared := { admin with outstandingCommands := 0 }
  let bits : FeatArbitration :=
    if admin.feature.valid then userSpecified else {}
  if rc ≠ 0 then
    { cleared with control := rest }
  else
    countAndPoll ctrlr rest (issue ctrlr (.setFeature bits) cleared)

/-- The log page command of `print_latency_statistics`. -/
def cmdGetLogPage (ctrlr : Ctrlr) (page : LogPage) (rc : Int)
    (rest : List Instruction) (admin : Admin) : Admin :=
  if rc ≠ 0 then
    { admin with
      control := []
      exited := true }
  else
    { issue ctrlr (.getLogPage page) admin with
      outstandingCommands := admin.outstandingCommands + 1
      control := rest }

/-- `get_feature_completion`, without its decrement. -/
def getFeatureCompletion (isError : Bool) (cdw0 : UInt32)
    (feature : Feature) : Feature :=
  if isError then feature else ⟨cdw0, true⟩

/-- `set_feature_completion`, without its decrement. -/
def setFeatureCompletion (isError : Bool) (feature : Feature) : Feature :=
  if isError then { feature with valid := false } else feature

/-- Every callback ends with a decrement. -/
def callback (request : Request) (isError : Bool) (cdw0 : UInt32)
    (admin : Admin) : Admin :=
  { admin with
    feature :=
      match request with
      | .getFeature => getFeatureCompletion isError cdw0 admin.feature
      | .setFeature _ => setFeatureCompletion isError admin.feature
      -- `enable_latency_tracking_complete` only prints.
      | .setLatencyTracking _ => admin.feature
      | .getLogPage _ => admin.feature
    outstandingCommands := admin.outstandingCommands - 1 }

/-! ## Runs -/

/-- What can happen next. -/
inductive Event where
  | registerCtrlr (ctrlr : Ctrlr) (allocated : Bool)
  | printLatencyStatistics (page : LogPage)
  | unregisterControllers
  /-- The next command is submitted. -/
  | submit (rc : Int)
  /-- A polling loop tests `outstanding_commands`. -/
  | test
  /-- The calls that process completions return. -/
  | processed
  | complete (command : AdminCommand) (isError : Bool) (cdw0 : UInt32)
  deriving DecidableEq, Repr

/-- A new call begins when the one before has returned. -/
def idle (admin : Admin) : Bool :=
  admin.control = [] && !admin.exited

/-- The first command of what is left to run is submitted. -/
def submit (rc : Int) (admin : Admin) : Option Admin :=
  match admin.control with
  | .setLatencyTrackingFeature ctrlr enable :: rest =>
      some (setLatencyTrackingFeature ctrlr enable rc rest admin)
  | .getArbFeature ctrlr :: rest =>
      some (getArbFeature ctrlr rc rest admin)
  | .setArbFeature ctrlr :: rest =>
      some (setArbFeature ctrlr rc rest admin)
  | .cmdGetLogPage ctrlr page :: rest =>
      some (cmdGetLogPage ctrlr page rc rest admin)
  | _ => none

/-- The transitions of the program and of its controllers. -/
def step (settings : Settings) (admin : Admin) : Event → Option Admin
  | .registerCtrlr ctrlr allocated =>
      if idle admin then
        some (registerCtrlr settings ctrlr allocated admin)
      else
        none
  | .printLatencyStatistics page =>
      if idle admin then some (printLatencyStatistics page admin) else none
  | .unregisterControllers =>
      if idle admin then
        some (unregisterControllers settings admin)
      else
        none
  | .submit rc => submit rc admin
  | .test =>
      match admin.control with
      | .poll .atTest ctrlrs :: rest =>
          if admin.outstandingCommands = 0 then
            some { admin with control := rest }
          else
            some { admin with control := .poll .processing ctrlrs :: rest }
      | _ => none
  | .processed =>
      match admin.control with
      | .poll .processing ctrlrs :: rest =>
          some { admin with control := .poll .atTest ctrlrs :: rest }
      | _ => none
  | .complete command isError cdw0 =>
      match admin.control with
      | .poll .processing ctrlrs :: _ =>
          if command ∈ admin.inFlight ∧ command.ctrlr ∈ ctrlrs then
            some
              (callback command.request isError cdw0
                { admin with inFlight := admin.inFlight.erase command })
          else
            none
      | _ => none

/-- A call is at one of its submissions, other than a log page. -/
inductive Instruction.Call : Instruction → Prop where
  | setLatencyTrackingFeature (ctrlr : Ctrlr) (enable : Bool) :
      Call (.setLatencyTrackingFeature ctrlr enable)
  | getArbFeature (ctrlr : Ctrlr) : Call (.getArbFeature ctrlr)
  | setArbFeature (ctrlr : Ctrlr) : Call (.setArbFeature ctrlr)

/-- What one step can do. -/
theorem step_cases
    {settings : Settings} {admin next : Admin} {event : Event}
    (taken : step settings admin event = some next) :
    (∃ ctrlr allocated,
      event = .registerCtrlr ctrlr allocated ∧
        idle admin = true ∧
          next = registerCtrlr settings ctrlr allocated admin) ∨
      (∃ page,
        event = .printLatencyStatistics page ∧
          idle admin = true ∧ next = printLatencyStatistics page admin) ∨
        (event = .unregisterControllers ∧
          idle admin = true ∧
            next = unregisterControllers settings admin) ∨
          (∃ rc, event = .submit rc ∧ submit rc admin = some next) ∨
            (∃ ctrlrs rest,
              event = .test ∧
                admin.control = .poll .atTest ctrlrs :: rest ∧
                  next =
                    { admin with
                      control :=
                        if admin.outstandingCommands = 0 then
                          rest
                        else
                          .poll .processing ctrlrs :: rest }) ∨
              (∃ ctrlrs rest,
                event = .processed ∧
                  admin.control = .poll .processing ctrlrs :: rest ∧
                    next =
                      { admin with
                        control := .poll .atTest ctrlrs :: rest }) ∨
                (∃ command isError cdw0 ctrlrs rest,
                  event = .complete command isError cdw0 ∧
                    admin.control = .poll .processing ctrlrs :: rest ∧
                      command ∈ admin.inFlight ∧
                        next =
                          callback command.request isError cdw0
                            { admin with
                              inFlight :=
                                admin.inFlight.erase command }) := by
  cases event with
  | registerCtrlr ctrlr allocated =>
      rcases Option.ite_none_right_eq_some.mp taken with ⟨ready, result⟩
      left
      exact ⟨ctrlr, allocated, rfl, ready, (Option.some.inj result).symm⟩
  | printLatencyStatistics page =>
      rcases Option.ite_none_right_eq_some.mp taken with ⟨ready, result⟩
      right
      left
      exact ⟨page, rfl, ready, (Option.some.inj result).symm⟩
  | unregisterControllers =>
      rcases Option.ite_none_right_eq_some.mp taken with ⟨ready, result⟩
      right
      right
      left
      exact ⟨rfl, ready, (Option.some.inj result).symm⟩
  | submit rc =>
      right
      right
      right
      left
      exact ⟨rc, rfl, taken⟩
  | test =>
      simp only [step] at taken
      split at taken
      · rename_i ctrlrs rest control
        right
        right
        right
        right
        left
        refine ⟨ctrlrs, rest, rfl, control, ?_⟩
        split at taken
        · rename_i zero
          rw [if_pos zero]
          exact (Option.some.inj taken).symm
        · rename_i nonzero
          rw [if_neg nonzero]
          exact (Option.some.inj taken).symm
      · cases taken
  | processed =>
      simp only [step] at taken
      split at taken
      · rename_i ctrlrs rest control
        right
        right
        right
        right
        right
        left
        exact ⟨ctrlrs, rest, rfl, control, (Option.some.inj taken).symm⟩
      · cases taken
  | complete command isError cdw0 =>
      simp only [step] at taken
      split at taken
      · rename_i ctrlrs rest control
        rcases Option.ite_none_right_eq_some.mp taken with
          ⟨ready, result⟩
        right
        right
        right
        right
        right
        right
        exact
          ⟨command, isError, cdw0, ctrlrs, rest, rfl, control, ready.1,
            (Option.some.inj result).symm⟩
      · cases taken

/-- `register_ctrlr` requests no log page. -/
theorem call_of_mem_registration
    {settings : Settings} {ctrlr : Ctrlr} {instruction : Instruction}
    (member : instruction ∈ registration settings ctrlr) :
    instruction.Call := by
  rw [registration, List.mem_append] at member
  rcases member with tracking | arbitration
  · split at tracking
    · rw [List.mem_singleton] at tracking
      subst tracking
      exact .setLatencyTrackingFeature ctrlr true
    · cases tracking
  · split at arbitration
    · rcases List.mem_cons.mp arbitration with rfl | configured
      · exact .getArbFeature ctrlr
      · split at configured
        · simp only [List.mem_cons, List.not_mem_nil, or_false]
            at configured
          rcases configured with rfl | rfl
          · exact .setArbFeature ctrlr
          · exact .getArbFeature ctrlr
        · cases configured
    · cases arbitration

/-- `unregister_controllers` requests no log page. -/
theorem call_of_mem_unregistration
    {controllers : List Ctrlr} {instruction : Instruction}
    (member :
      instruction ∈
        controllers.map fun ctrlr =>
          Instruction.setLatencyTrackingFeature ctrlr false) :
    instruction.Call := by
  rcases List.mem_map.mp member with ⟨ctrlr, _, rfl⟩
  exact .setLatencyTrackingFeature ctrlr false

end ZnsBench.Multipath.AdminCommands

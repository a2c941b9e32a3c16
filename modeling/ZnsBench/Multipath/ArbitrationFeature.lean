import ZnsBench.Multipath.AdminCommands

/-!
# Configuring the arbitration of a controller

`register_ctrlr` reads the arbitration feature, sets it and reads it again.
All three commands share one entry of `features`: a successful read makes it
valid, a failed set makes it invalid, and the second command takes it for a
licence to send the configured weights.

The commands here are accepted and complete, with success or with an error.
The state machine of the admin commands goes through the same entries.
-/

namespace ZnsBench.Multipath.ArbitrationFeature

open ZnsBench.Core.GuardedRun
open ZnsBench.Multipath.AdminCommands hiding getArbFeature setArbFeature

/-! ## The register -/

/--
`feat_arbitration.raw`: three bits of burst, five reserved ones and three
bytes of weights.
-/
def raw (bits : FeatArbitration) : UInt32 :=
  (bits.ab.toUInt32 &&& (7 : UInt32)) |||
    (bits.lpw.toUInt32 <<< (8 : UInt32)) |||
      (bits.mpw.toUInt32 <<< (16 : UInt32)) |||
        (bits.hpw.toUInt32 <<< (24 : UInt32))

/-- The fields of `feat_arbitration.bits`. -/
def bitsOf (value : UInt32) : FeatArbitration where
  ab := (value &&& 7).toUInt8
  lpw := (value >>> 8).toUInt8
  mpw := (value >>> 16).toUInt8
  hpw := (value >>> 24).toUInt8

/-! ## The three commands -/

/-- What the program prints about the feature. -/
inductive Message where
  | getFeatureFailed
  | currentArbitrationConfiguration (bits : FeatArbitration)
  | setFeatureFailed
  | setArbitrationFeatureSuccessfully
  | setArbitrationFeatureFailed
  deriving DecidableEq, Repr

/-- The program and the feature of one controller. -/
structure Bench where
  /-- `features[SPDK_NVME_FEAT_ARBITRATION]`. -/
  feature : Feature
  /-- The value of the feature on the controller. -/
  arbitration : UInt32
  printed : List Message
  deriving DecidableEq, Repr

/-- `get_arb_feature`, whose command completes with the controller's value. -/
def getArbFeature (isError : Bool) (bench : Bench) : Bench :=
  let feature :=
    getFeatureCompletion isError bench.arbitration
      { bench.feature with valid := false }
  { bench with
    feature := feature
    printed :=
      bench.printed ++
        (if isError then [.getFeatureFailed] else []) ++
          if feature.valid then
            [.currentArbitrationConfiguration (bitsOf feature.result)]
          else
            [] }

/-- `set_arb_feature`; the controller stores what a successful set sends. -/
def setArbFeature (isError : Bool) (bench : Bench) : Bench :=
  let bits : FeatArbitration :=
    if bench.feature.valid then userSpecified else {}
  let feature := setFeatureCompletion isError bench.feature
  { feature := feature
    arbitration := if isError then bench.arbitration else raw bits
    printed :=
      bench.printed ++
        (if isError then
            [.setFeatureFailed]
          else
            [.setArbitrationFeatureSuccessfully]) ++
          if feature.valid then [] else [.setArbitrationFeatureFailed] }

/-- How the three commands complete; true is an error. -/
structure Outcomes where
  firstGet : Bool
  set : Bool
  secondGet : Bool
  deriving DecidableEq, Repr

/-- The end of `register_ctrlr`. -/
def configureArbitration (settings : Settings) (ams : UInt8)
    (outcomes : Outcomes) (bench : Bench) : Bench :=
  if settings.arbitrationMechanism = capAmsWrr ∧ ams &&& capAmsWrr ≠ 0 then
    let read := getArbFeature outcomes.firstGet bench
    if settings.arbitrationConfig ≠ 0 then
      getArbFeature outcomes.secondGet (setArbFeature outcomes.set read)
    else
      read
  else
    bench

/-! ## What they leave on the controller -/

/-- The value sent is the configured one, and its fields are read back. -/
@[simp]
theorem bitsOf_raw_userSpecified :
    bitsOf (raw userSpecified) = userSpecified := by
  decide

@[simp]
theorem getArbFeature_arbitration (isError : Bool) (bench : Bench) :
    (getArbFeature isError bench).arbitration = bench.arbitration :=
  rfl

/-- A read leaves the entry valid exactly when it succeeds. -/
@[simp]
theorem getArbFeature_valid (isError : Bool) (bench : Bench) :
    (getArbFeature isError bench).feature.valid = !isError := by
  cases isError <;> rfl

/-- Reading prints nothing about setting. -/
@[simp]
theorem mem_printed_getArbFeature (isError : Bool) (bench : Bench) :
    .setArbitrationFeatureFailed ∈ (getArbFeature isError bench).printed ↔
      .setArbitrationFeatureFailed ∈ bench.printed := by
  simp only [getArbFeature, List.mem_append]
  cases isError <;> simp [getFeatureCompletion]

@[simp]
theorem setArbFeature_arbitration (isError : Bool) (bench : Bench) :
    (setArbFeature isError bench).arbitration =
      if isError then
        bench.arbitration
      else
        raw (if bench.feature.valid then userSpecified else {}) :=
  rfl

/-- The message depends on the read before as much as on the set. -/
@[simp]
theorem mem_printed_setArbFeature (isError : Bool) (bench : Bench) :
    .setArbitrationFeatureFailed ∈ (setArbFeature isError bench).printed ↔
      .setArbitrationFeatureFailed ∈ bench.printed ∨
        isError = true ∨ bench.feature.valid = false := by
  simp only [setArbFeature, List.mem_append]
  cases isError
  · cases valid : bench.feature.valid <;>
      simp [setFeatureCompletion, valid]
  · simp [setFeatureCompletion]

/--
Setting is all or nothing: the controller keeps its value or has the
configured one, and a failure is printed exactly when the set failed.
-/
def AllOrNothing (outcomes : Outcomes) (before after : Bench) : Prop :=
  (after.arbitration = before.arbitration ∨
      bitsOf after.arbitration = userSpecified) ∧
    (.setArbitrationFeatureFailed ∈ after.printed ↔ outcomes.set = true)

instance (outcomes : Outcomes) (before after : Bench) :
    Decidable (AllOrNothing outcomes before after) :=
  inferInstanceAs (Decidable (_ ∧ _))

/--
The three commands are all or nothing exactly when the first one succeeds or
the second one fails.  In the remaining case zeros are set with success and a
failure is printed.
-/
theorem allOrNothing_iff_read_or_set_fails
    (settings : Settings) (ams : UInt8) (outcomes : Outcomes)
    (feature : Feature) (value : UInt32)
    (mechanism : settings.arbitrationMechanism = capAmsWrr)
    (supported : ams &&& capAmsWrr ≠ 0)
    (configured : settings.arbitrationConfig = 1) :
    AllOrNothing outcomes ⟨feature, value, []⟩
        (configureArbitration settings ams outcomes ⟨feature, value, []⟩) ↔
      outcomes.firstGet = false ∨ outcomes.set = true := by
  have nonzero : settings.arbitrationConfig ≠ 0 := by
    rw [configured]
    decide
  have printed :
      Message.setArbitrationFeatureFailed ∈
          (getArbFeature outcomes.firstGet ⟨feature, value, []⟩).printed ↔
        False :=
    (mem_printed_getArbFeature _ _).trans (by simp)
  rw [configureArbitration, if_pos ⟨mechanism, supported⟩, if_pos nonzero,
    AllOrNothing, mem_printed_getArbFeature, mem_printed_setArbFeature,
    printed, getArbFeature_arbitration, setArbFeature_arbitration,
    getArbFeature_arbitration, getArbFeature_valid]
  cases firstGet : outcomes.firstGet
  · cases set : outcomes.set
    · simp [bitsOf_raw_userSpecified]
    · simp
  · cases set : outcomes.set <;> simp

/-- Both reads and the set succeed. -/
theorem allOrNothing_when_read_succeeds :
    AllOrNothing ⟨false, false, false⟩ ⟨⟨0, false⟩, 0, []⟩
      (configureArbitration ⟨0, 1, 1⟩ 1 ⟨false, false, false⟩
        ⟨⟨0, false⟩, 0, []⟩) :=
  (allOrNothing_iff_read_or_set_fails ⟨0, 1, 1⟩ 1 ⟨false, false, false⟩
    ⟨0, false⟩ 0 rfl (by decide) rfl).mpr (Or.inl rfl)

/--
The first read fails and the set succeeds: the weights of the controller are
zero afterwards, and the set is reported to have failed.
-/
theorem not_allOrNothing_when_read_fails :
    ¬ AllOrNothing ⟨true, false, false⟩ ⟨⟨0, false⟩, 0x03020107, []⟩
      (configureArbitration ⟨0, 1, 1⟩ 1 ⟨true, false, false⟩
        ⟨⟨0, false⟩, 0x03020107, []⟩) := by
  decide

/-! ## The same commands in the state machine -/

/-- The events of one accepted command that completes in the first poll. -/
def commandEvents (ctrlr : Ctrlr) (request : Request) (isError : Bool)
    (cdw0 : UInt32) : List Event :=
  [.submit 0, .test, .complete ⟨ctrlr, request⟩ isError cdw0, .processed,
    .test]

section Replay

variable (settings : Settings) (admin : Admin) {ctrlr : Ctrlr}
    {rest : List Instruction}

theorem replay_getArbFeature
    (control : admin.control = .getArbFeature ctrlr :: rest)
    (counted : admin.outstandingCommands = 0)
    (settled : admin.inFlight = [])
    (isError : Bool) (cdw0 : UInt32) (later : List Event) :
    replay (step settings) Unrestricted admin
        (commandEvents ctrlr .getFeature isError cdw0 ++ later) =
      replay (step settings) Unrestricted
        { admin with
          feature :=
            getFeatureCompletion isError cdw0
              { admin.feature with valid := false }
          control := rest }
        later := by
  rcases admin with ⟨_, _, _, _, _, _⟩
  subst control counted settled
  simp [commandEvents, replay, step, submit, AdminCommands.getArbFeature,
    getFeature, countAndPoll, issue, callback, Unrestricted]

theorem replay_setArbFeature
    (control : admin.control = .setArbFeature ctrlr :: rest)
    (settled : admin.inFlight = [])
    (isError : Bool) (cdw0 : UInt32) (later : List Event) :
    replay (step settings) Unrestricted admin
        (commandEvents ctrlr
            (.setFeature
              (if admin.feature.valid then userSpecified else {}))
            isError cdw0 ++ later) =
      replay (step settings) Unrestricted
        { admin with
          feature := setFeatureCompletion isError admin.feature
          outstandingCommands := 0
          control := rest }
        later := by
  rcases admin with ⟨_, _, _, _, _, _⟩
  subst control settled
  simp [commandEvents, replay, step, submit, AdminCommands.setArbFeature,
    countAndPoll, issue, callback, Unrestricted]

/--
The state machine goes through the three commands with these outcomes, and
its entry of `features` ends as it does here.
-/
theorem replay_configureArbitration
    (control :
      admin.control =
        [.getArbFeature ctrlr, .setArbFeature ctrlr, .getArbFeature ctrlr])
    (counted : admin.outstandingCommands = 0)
    (settled : admin.inFlight = [])
    (outcomes : Outcomes) (value : UInt32) :
    let bench : Bench := ⟨admin.feature, value, []⟩
    let read := getArbFeature outcomes.firstGet bench
    let set := setArbFeature outcomes.set read
    replay (step settings) Unrestricted admin
        (commandEvents ctrlr .getFeature outcomes.firstGet
            bench.arbitration ++
          (commandEvents ctrlr
              (.setFeature
                (if read.feature.valid then userSpecified else {}))
              outcomes.set 0 ++
            commandEvents ctrlr .getFeature outcomes.secondGet
              set.arbitration)) =
      some
        { admin with
          feature := (getArbFeature outcomes.secondGet set).feature
          control := [] } := by
  intro bench read set
  rw [replay_getArbFeature settings admin control counted settled]
  have second :=
    replay_setArbFeature settings
      { admin with
        feature := read.feature
        control := [.setArbFeature ctrlr, .getArbFeature ctrlr] }
      rfl settled outcomes.set 0
      (commandEvents ctrlr .getFeature outcomes.secondGet set.arbitration)
  have third :=
    replay_getArbFeature settings
      { admin with
        feature := set.feature
        outstandingCommands := 0
        control := [.getArbFeature ctrlr] }
      rfl rfl settled outcomes.secondGet set.arbitration []
  rw [List.append_nil] at third
  refine second.trans (third.trans ?_)
  simp only [replay, counted]
  rfl

end Replay

end ZnsBench.Multipath.ArbitrationFeature

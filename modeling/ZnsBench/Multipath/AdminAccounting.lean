import ZnsBench.Core.CommandCounter
import ZnsBench.Multipath.AdminCommands

/-!
# Accounting of the admin commands

At each test of a polling loop `outstanding_commands` should be the number of
admin commands in flight, so that the loop ends once the controllers have
answered.  Every function that counts a command first looks at what its
submission returned, except `get_arb_feature`: a rejected `get_feature` is
counted, never completes, and keeps the loop polling.

In the runs in which the counter, an `int`, can hold the log pages requested
at once, the accounting is right at a test if and only if no `get_feature`
has been rejected.
-/

namespace ZnsBench.Multipath.AdminAccounting

open ZnsBench.Core.CommandCounter
open ZnsBench.Core.GuardedRun
open ZnsBench.Multipath.AdminCommands

/-! ## The law and the condition -/

/-- The law at a test of the loop that polls `ctrlrs`. -/
structure Accounted (settings : Settings) (admin : Admin)
    (ctrlrs : List Ctrlr) (rest : List Instruction) : Prop where
  equal : admin.outstandingCommands.toInt = admin.inFlight.length
  nonnegative : 0 ≤ admin.outstandingCommands.toInt
  polled : ∀ command ∈ admin.inFlight, command.ctrlr ∈ ctrlrs
  ends :
    admin.inFlight = [] →
      step settings admin .test = some { admin with control := rest }

/-- The next submission is the one of `get_arb_feature`. -/
def getsArbFeature (admin : Admin) : Bool :=
  match admin.control with
  | .getArbFeature _ :: _ => true
  | _ => false

/-- The submission in `get_arb_feature` is not rejected. -/
def Accepts (admin : Admin) : Event → Prop
  | .submit rc => getsArbFeature admin = true → rc = 0
  | _ => True

instance (admin : Admin) (event : Event) :
    Decidable (Accepts admin event) :=
  match event with
  | .submit _ => inferInstanceAs (Decidable (_ → _))
  | .registerCtrlr _ _ => isTrue True.intro
  | .printLatencyStatistics _ => isTrue True.intro
  | .unregisterControllers => isTrue True.intro
  | .test => isTrue True.intro
  | .processed => isTrue True.intro
  | .complete _ _ _ => isTrue True.intro

/-- The counter can hold the log pages that are requested at once. -/
def Countable (admin : Admin) : Event → Prop
  | .printLatencyStatistics page =>
      (supporting page admin.controllers).length < 2 ^ 31
  | _ => True

instance (admin : Admin) (event : Event) :
    Decidable (Countable admin event) :=
  match event with
  | .printLatencyStatistics _ => inferInstanceAs (Decidable (_ < _))
  | .registerCtrlr _ _ => isTrue True.intro
  | .unregisterControllers => isTrue True.intro
  | .submit _ => isTrue True.intro
  | .test => isTrue True.intro
  | .processed => isTrue True.intro
  | .complete _ _ _ => isTrue True.intro

/-- Runs, with the record of whether `get_feature` was always accepted. -/
def Reachable (settings : Settings) (admin : Admin) (accepted : Bool) :
    Prop :=
  Run (judged (step settings) Accepts)
    (fun pair event => Countable pair.1 event)
    (initial, true) (admin, accepted)

/-! ## The stages of a run -/

/-- Everything in flight is counted, and belongs to one of `ctrlrs`. -/
structure Counted (ctrlrs : List Ctrlr) (admin : Admin) : Prop where
  equal : admin.outstandingCommands = Int32.ofNat admin.inFlight.length
  polled : ∀ command ∈ admin.inFlight, command.ctrlr ∈ ctrlrs

/-- Where a run is, given whether `get_feature` was always accepted. -/
inductive Stage (admin : Admin) (accepted : Prop) : Prop where
  | quiet
      (calls : ∀ instruction ∈ admin.control, instruction.Call)
      (zero : admin.outstandingCommands = 0)
      (none : admin.inFlight = [])
      (all : accepted)
  /-- The first loop of `print_latency_statistics`. -/
  | requesting (page : LogPage) (remaining : List Ctrlr)
      (control :
        admin.control =
          remaining.map (fun ctrlr => .cmdGetLogPage ctrlr page) ++
            [.poll .atTest admin.controllers])
      (listed : ∀ ctrlr ∈ remaining, ctrlr ∈ admin.controllers)
      (counted : Counted admin.controllers admin)
      (room : admin.inFlight.length + remaining.length < 2 ^ 31)
      (all : accepted)
  | polling (phase : Phase) (ctrlrs : List Ctrlr)
      (rest : List Instruction)
      (control : admin.control = .poll phase ctrlrs :: rest)
      (calls : ∀ instruction ∈ rest, instruction.Call)
      (counted : Counted ctrlrs admin)
      (small : admin.inFlight.length < 2 ^ 31)
      (all : accepted)
  /-- A rejected command is polled for. -/
  | spinning (phase : Phase) (ctrlrs : List Ctrlr)
      (rest : List Instruction)
      (control : admin.control = .poll phase ctrlrs :: rest)
      (one : admin.outstandingCommands = 1)
      (none : admin.inFlight = [])
      (some : ¬ accepted)
  | exited (ended : admin.exited = true) (nothing : admin.control = [])

theorem Stage.congr
    {admin : Admin} {accepted other : Prop}
    (stage : Stage admin accepted) (same : accepted ↔ other) :
    Stage admin other := by
  rw [← propext same]
  exact stage

theorem Counted.issue
    {ctrlrs : List Ctrlr} {admin : Admin} (counted : Counted ctrlrs admin)
    {ctrlr : Ctrlr} (listed : ctrlr ∈ ctrlrs) (request : Request)
    (control : List Instruction) :
    Counted ctrlrs
      { issue ctrlr request admin with
        outstandingCommands := admin.outstandingCommands + 1
        control := control } := by
  refine ⟨?_, ?_⟩
  · exact
      (congrArg (· + 1) counted.equal).trans
        (ofNat_length_append _ _).symm
  · intro command member
    rcases List.mem_append.mp member with earlier | last
    · exact counted.polled command earlier
    · rw [List.mem_singleton.mp last]
      exact listed

theorem Counted.complete
    {ctrlrs : List Ctrlr} {admin : Admin} (counted : Counted ctrlrs admin)
    {command : AdminCommand} (present : command ∈ admin.inFlight)
    (isError : Bool) (cdw0 : UInt32) :
    Counted ctrlrs
      (callback command.request isError cdw0
        { admin with inFlight := admin.inFlight.erase command }) := by
  refine ⟨?_, ?_⟩
  · exact
      (congrArg (· - 1) counted.equal).trans
        (ofNat_length_erase present).symm
  · intro other member
    exact counted.polled other (List.mem_of_mem_erase member)

/-! ## Calls -/

/-- Between two calls nothing is in flight. -/
theorem Stage.of_idle
    {admin : Admin} {accepted : Prop} (stage : Stage admin accepted)
    (ready : idle admin = true) :
    admin.outstandingCommands = 0 ∧ admin.inFlight = [] ∧ accepted := by
  simp only [idle, Bool.and_eq_true, decide_eq_true_eq,
    Bool.not_eq_true'] at ready
  rcases ready with ⟨nothing, running⟩
  cases stage with
  | quiet calls zero none all => exact ⟨zero, none, all⟩
  | requesting page remaining control listed counted room all =>
      rw [nothing] at control
      exact absurd control.symm (List.append_ne_nil_of_right_ne_nil _ (by simp))
  | polling phase ctrlrs rest control calls counted small all =>
      rw [nothing] at control
      cases control
  | spinning phase ctrlrs rest control one none some =>
      rw [nothing] at control
      cases control
  | exited ended _ =>
      rw [ended] at running
      cases running

theorem stage_registerCtrlr
    {settings : Settings} {admin : Admin} {accepted : Prop}
    (stage : Stage admin accepted) (ready : idle admin = true)
    (ctrlr : Ctrlr) (allocated : Bool) :
    Stage (registerCtrlr settings ctrlr allocated admin) accepted := by
  rcases stage.of_idle ready with ⟨zero, none, all⟩
  rw [registerCtrlr]
  split
  · exact
      .quiet (fun _ member => call_of_mem_registration member) zero none all
  · simp only [idle, Bool.and_eq_true, decide_eq_true_eq] at ready
    exact .exited rfl ready.1

theorem stage_printLatencyStatistics
    {admin : Admin} {accepted : Prop}
    (stage : Stage admin accepted) (ready : idle admin = true)
    (page : LogPage)
    (countable : (supporting page admin.controllers).length < 2 ^ 31) :
    Stage (printLatencyStatistics page admin) accepted := by
  rcases stage.of_idle ready with ⟨zero, none, all⟩
  refine .requesting page _ rfl ?_ ⟨?_, ?_⟩ ?_ all
  · intro ctrlr member
    exact (List.mem_filter.mp member).1
  · change admin.outstandingCommands = Int32.ofNat admin.inFlight.length
    rw [zero, none]
    rfl
  · change ∀ command ∈ admin.inFlight, command.ctrlr ∈ _
    rw [none]
    exact List.forall_mem_nil _
  · change admin.inFlight.length + _ < 2 ^ 31
    rw [none, List.length_nil, Nat.zero_add]
    exact countable

theorem stage_unregisterControllers
    {settings : Settings} {admin : Admin} {accepted : Prop}
    (stage : Stage admin accepted) (ready : idle admin = true) :
    Stage (unregisterControllers settings admin) accepted := by
  rcases stage.of_idle ready with ⟨zero, none, all⟩
  exact
    .quiet (fun _ member => call_of_mem_unregistration member) zero none all

/-! ## Submissions -/

/-- The only command in flight is counted and polled for. -/
theorem stage_countAndPoll
    {admin : Admin} {accepted : Prop} (ctrlr : Ctrlr) (request : Request)
    {rest : List Instruction}
    (calls : ∀ instruction ∈ rest, instruction.Call)
    (zero : admin.outstandingCommands = 0) (none : admin.inFlight = [])
    (all : accepted) :
    Stage (countAndPoll ctrlr rest (issue ctrlr request admin))
      accepted := by
  have counted : Counted [ctrlr] admin := by
    refine ⟨?_, ?_⟩
    · rw [zero, none]
      rfl
    · rw [none]
      exact List.forall_mem_nil _
  refine
    .polling .atTest [ctrlr] rest rfl calls
      (counted.issue List.mem_cons_self request _) ?_ all
  simp [countAndPoll, issue, none]

theorem accepts_of_control
    {admin : Admin} {instruction : Instruction} {rest : List Instruction}
    (control : admin.control = instruction :: rest)
    (other : ∀ ctrlr, instruction ≠ .getArbFeature ctrlr) (rc : Int) :
    Accepts admin (.submit rc) := by
  intro gets
  rw [getsArbFeature, control] at gets
  cases instruction with
  | getArbFeature ctrlr => exact absurd rfl (other ctrlr)
  | setLatencyTrackingFeature _ _ => cases gets
  | setArbFeature _ => cases gets
  | cmdGetLogPage _ _ => cases gets
  | poll _ _ => cases gets

/-- A call submits a command when nothing is in flight. -/
theorem stage_call
    {admin next : Admin} {accepted : Prop} {rc : Int}
    {instruction : Instruction} {rest : List Instruction}
    (control : admin.control = instruction :: rest)
    (call : instruction.Call)
    (calls : ∀ other ∈ rest, other.Call)
    (zero : admin.outstandingCommands = 0) (none : admin.inFlight = [])
    (all : accepted) (taken : submit rc admin = some next) :
    Stage next (accepted ∧ Accepts admin (.submit rc)) := by
  rw [submit, control] at taken
  cases call with
  | setLatencyTrackingFeature ctrlr enable =>
      have accepts := accepts_of_control control (by simp) rc
      cases taken
      rw [setLatencyTrackingFeature]
      split
      · exact .quiet calls zero none ⟨all, accepts⟩
      · exact stage_countAndPoll ctrlr _ calls zero none ⟨all, accepts⟩
  | setArbFeature ctrlr =>
      have accepts := accepts_of_control control (by simp) rc
      cases taken
      rw [setArbFeature]
      dsimp only
      split
      · exact .quiet calls rfl none ⟨all, accepts⟩
      · exact stage_countAndPoll ctrlr _ calls rfl none ⟨all, accepts⟩
  | getArbFeature ctrlr =>
      cases taken
      rw [getArbFeature, getFeature]
      dsimp only
      split
      · rename_i returned
        exact
          stage_countAndPoll ctrlr _ calls zero none
            ⟨all, fun _ => returned⟩
      · -- The rejected command is counted.
        rename_i rejected
        refine .spinning .atTest [ctrlr] rest rfl ?_ none ?_
        · change admin.outstandingCommands + 1 = 1
          rw [zero]
          rfl
        · rintro ⟨_, accepts⟩
          refine rejected (accepts ?_)
          rw [getsArbFeature, control]

/-- The first loop of `print_latency_statistics` counts what it submits. -/
theorem stage_cmdGetLogPage
    {admin : Admin} {accepted : Prop} {page : LogPage} {ctrlr : Ctrlr}
    {remaining : List Ctrlr} (rc : Int)
    (listed : ∀ other ∈ ctrlr :: remaining, other ∈ admin.controllers)
    (counted : Counted admin.controllers admin)
    (room : admin.inFlight.length + (ctrlr :: remaining).length < 2 ^ 31)
    (all : accepted) :
    Stage
      (cmdGetLogPage ctrlr page rc
        (remaining.map (fun other => .cmdGetLogPage other page) ++
          [.poll .atTest admin.controllers])
        admin)
      accepted := by
  rw [cmdGetLogPage]
  split
  · exact .exited rfl rfl
  · refine
      .requesting page remaining rfl
        (fun other member => listed other (List.mem_cons_of_mem _ member))
        (counted.issue (listed ctrlr List.mem_cons_self) _ _) ?_ all
    rw [List.length_cons] at room
    simp only [issue, List.length_append, List.length_singleton]
    omega

theorem stage_submit
    {admin next : Admin} {accepted : Prop} {rc : Int}
    (stage : Stage admin accepted) (taken : submit rc admin = some next) :
    Stage next (accepted ∧ Accepts admin (.submit rc)) := by
  cases stage with
  | quiet calls zero none all =>
      cases control : admin.control with
      | nil =>
          rw [submit, control] at taken
          cases taken
      | cons instruction rest =>
          rw [control, List.forall_mem_cons] at calls
          exact stage_call control calls.1 calls.2 zero none all taken
  | requesting page remaining control listed counted room all =>
      cases remaining with
      | nil =>
          rw [submit, control] at taken
          cases taken
      | cons ctrlr remaining =>
          have accepts := accepts_of_control control (by simp) rc
          rw [submit, control] at taken
          cases taken
          exact stage_cmdGetLogPage rc listed counted room ⟨all, accepts⟩
  | polling phase ctrlrs rest control calls counted small all =>
      rw [submit, control] at taken
      cases taken
  | spinning phase ctrlrs rest control one none some =>
      rw [submit, control] at taken
      cases taken
  | exited ended nothing =>
      rw [submit, nothing] at taken
      cases taken

/-! ## Polling -/

/-- A loop that polls has counted what it polls for, or spins. -/
theorem Stage.of_poll
    {admin : Admin} {accepted : Prop} (stage : Stage admin accepted)
    {phase : Phase} {ctrlrs : List Ctrlr} {rest : List Instruction}
    (framed : admin.control = .poll phase ctrlrs :: rest) :
    (accepted ∧
        Counted ctrlrs admin ∧
          admin.inFlight.length < 2 ^ 31 ∧
            ∀ instruction ∈ rest, instruction.Call) ∨
      ¬ accepted ∧
        admin.outstandingCommands = 1 ∧ admin.inFlight = [] := by
  cases stage with
  | quiet calls zero none all =>
      have call := calls (.poll phase ctrlrs) (by simp [framed])
      cases call
  | requesting page remaining control listed counted room all =>
      rw [control] at framed
      cases remaining with
      | nil =>
          cases framed
          left
          exact ⟨all, counted, room, List.forall_mem_nil _⟩
      | cons ctrlr remaining => cases framed
  | polling other polled behind control calls counted small all =>
      rw [control] at framed
      cases framed
      left
      exact ⟨all, counted, small, calls⟩
  | spinning other polled behind control one none some =>
      right
      exact ⟨some, one, none⟩
  | exited ended nothing =>
      rw [nothing] at framed
      cases framed

theorem stage_test
    {admin : Admin} {accepted : Prop} (stage : Stage admin accepted)
    {ctrlrs : List Ctrlr} {rest : List Instruction}
    (control : admin.control = .poll .atTest ctrlrs :: rest) :
    Stage
      { admin with
        control :=
          if admin.outstandingCommands = 0 then
            rest
          else
            .poll .processing ctrlrs :: rest }
      accepted := by
  rcases stage.of_poll control with
    ⟨all, counted, small, calls⟩ | ⟨some, one, none⟩
  · split
    · rename_i zero
      have counter := counted.equal
      rw [zero] at counter
      exact
        .quiet calls zero
          (eq_nil_of_ofNat_length_eq_zero small counter.symm) all
    · exact
        .polling .processing ctrlrs rest rfl calls
          ⟨counted.equal, counted.polled⟩ small all
  · have nonzero : ¬ admin.outstandingCommands = 0 := by
      rw [one]
      decide
    rw [if_neg nonzero]
    exact .spinning .processing ctrlrs rest rfl one none some

theorem stage_processed
    {admin : Admin} {accepted : Prop} (stage : Stage admin accepted)
    {ctrlrs : List Ctrlr} {rest : List Instruction}
    (control : admin.control = .poll .processing ctrlrs :: rest) :
    Stage { admin with control := .poll .atTest ctrlrs :: rest }
      accepted := by
  rcases stage.of_poll control with
    ⟨all, counted, small, calls⟩ | ⟨some, one, none⟩
  · exact
      .polling .atTest ctrlrs rest rfl calls
        ⟨counted.equal, counted.polled⟩ small all
  · exact .spinning .atTest ctrlrs rest rfl one none some

theorem stage_complete
    {admin : Admin} {accepted : Prop} (stage : Stage admin accepted)
    {ctrlrs : List Ctrlr} {rest : List Instruction}
    (control : admin.control = .poll .processing ctrlrs :: rest)
    {command : AdminCommand} (present : command ∈ admin.inFlight)
    (isError : Bool) (cdw0 : UInt32) :
    Stage
      (callback command.request isError cdw0
        { admin with inFlight := admin.inFlight.erase command })
      accepted := by
  rcases stage.of_poll control with
    ⟨all, counted, small, calls⟩ | ⟨_, _, none⟩
  · refine
      .polling .processing ctrlrs rest control calls
        (counted.complete present isError cdw0) ?_ all
    have shorter := List.length_erase_add_one present
    simp only [callback]
    omega
  · rw [none] at present
    cases present

/-! ## Runs -/

theorem stage_step
    {settings : Settings} {admin next : Admin} {event : Event}
    {accepted : Prop} (stage : Stage admin accepted)
    (countable : Countable admin event)
    (taken : step settings admin event = some next) :
    Stage next (accepted ∧ Accepts admin event) := by
  have same (accepts : Accepts admin event) :
      accepted ↔ accepted ∧ Accepts admin event :=
    (and_iff_left accepts).symm
  rcases step_cases taken with
    ⟨ctrlr, allocated, rfl, ready, rfl⟩ | ⟨page, rfl, ready, rfl⟩ |
      ⟨rfl, ready, rfl⟩ | ⟨rc, rfl, submitted⟩ |
      ⟨ctrlrs, rest, rfl, control, rfl⟩ |
      ⟨ctrlrs, rest, rfl, control, rfl⟩ |
      ⟨command, isError, cdw0, ctrlrs, rest, rfl, control, present, rfl⟩
  · exact
      (stage_registerCtrlr stage ready ctrlr allocated).congr
        (same True.intro)
  · exact
      (stage_printLatencyStatistics stage ready page countable).congr
        (same True.intro)
  · exact
      (stage_unregisterControllers stage ready).congr (same True.intro)
  · exact stage_submit stage submitted
  · exact (stage_test stage control).congr (same True.intro)
  · exact (stage_processed stage control).congr (same True.intro)
  · exact
      (stage_complete stage control present isError cdw0).congr
        (same True.intro)

theorem stage_of_reachable
    {settings : Settings} {admin : Admin} {accepted : Bool}
    (reachable : Reachable settings admin accepted) :
    Stage admin (accepted = true) :=
  Run.preserves_judged Stage reachable
    (.quiet (List.forall_mem_nil _) rfl rfl True.intro)
    fun _ _ _ _ stage countable taken => stage_step stage countable taken

/--
At each test of a polling loop the accounting is right if and only if no
`get_feature` has been rejected.
-/
theorem accounted_iff_get_feature_accepted
    (settings : Settings) (admin : Admin) (accepted : Bool)
    (reachable : Reachable settings admin accepted)
    (ctrlrs : List Ctrlr) (rest : List Instruction)
    (testing : admin.control = .poll .atTest ctrlrs :: rest) :
    Accounted settings admin ctrlrs rest ↔ accepted = true := by
  rcases (stage_of_reachable reachable).of_poll testing with
    ⟨all, counted, small, _⟩ | ⟨some, one, none⟩
  · refine iff_of_true ?_ all
    have equal :
        admin.outstandingCommands.toInt = admin.inFlight.length := by
      rw [counted.equal]
      exact Int32.toInt_ofNat_of_lt small
    refine ⟨equal, by omega, counted.polled, ?_⟩
    intro answered
    have zero : admin.outstandingCommands = 0 := by
      rw [counted.equal, answered]
      rfl
    rw [step, testing]
    exact if_pos zero
  · refine iff_of_false ?_ some
    intro accounted
    have equal := accounted.equal
    rw [one, none] at equal
    cases equal

/-- All options of the command line are given. -/
def allEnabled : Settings where
  latencyTrackingEnable := 1
  arbitrationMechanism := 1
  arbitrationConfig := 1

/-- A controller that supports everything. -/
def fullCtrlr : Ctrlr where
  id := 0
  latencyTracking := true
  ams := 1
  logPages := [.readCmdLatency, .writeCmdLatency]

/-- The second `get_arb_feature`, after a rejected `set_arb_feature`. -/
theorem accounted_after_rejected_set :
    ∃ admin,
      Reachable allEnabled admin true ∧
        admin.control = [.poll .atTest [fullCtrlr]] ∧
          admin.inFlight = [⟨fullCtrlr, .getFeature⟩] ∧
            Accounted allEnabled admin [fullCtrlr] [] := by
  have replayed :
      ∃ pair : Admin × Bool,
        Reachable allEnabled pair.1 pair.2 ∧
          pair.2 = true ∧
            pair.1.control = [.poll .atTest [fullCtrlr]] ∧
              pair.1.inFlight = [⟨fullCtrlr, .getFeature⟩] :=
    Run.exists_of_replay _
      [.registerCtrlr fullCtrlr true, .submit 0, .test,
        .complete ⟨fullCtrlr, .setLatencyTracking true⟩ false 0,
        .processed, .test, .submit 0, .test,
        .complete ⟨fullCtrlr, .getFeature⟩ false 7, .processed, .test,
        .submit (-12), .submit 0]
      (by decide +kernel)
  rcases replayed with ⟨⟨admin, _⟩, reached, rfl, testing, flight⟩
  exact
    ⟨admin, reached, testing, flight,
      (accounted_iff_get_feature_accepted allEnabled admin true reached
        [fullCtrlr] [] testing).mpr rfl⟩

/--
A `get_feature` is rejected, with `-ENOMEM`: the loop polls for one command
and none is in flight.
-/
theorem rejected_get_feature_is_polled_for :
    ∃ admin accepted,
      Reachable ⟨0, 1, 0⟩ admin accepted ∧
        admin.control = [.poll .atTest [fullCtrlr]] ∧
          admin.outstandingCommands = 1 ∧
            admin.inFlight = [] ∧
              ¬ Accounted ⟨0, 1, 0⟩ admin [fullCtrlr] [] := by
  have replayed :
      ∃ pair : Admin × Bool,
        Reachable ⟨0, 1, 0⟩ pair.1 pair.2 ∧
          pair.1.control = [.poll .atTest [fullCtrlr]] ∧
            pair.1.outstandingCommands = 1 ∧ pair.1.inFlight = [] :=
    Run.exists_of_replay _
      [.registerCtrlr fullCtrlr true, .submit (-12)] (by decide +kernel)
  rcases replayed with ⟨⟨admin, accepted⟩, reached, testing, one, none⟩
  refine ⟨admin, accepted, reached, testing, one, none, ?_⟩
  intro accounted
  have equal := accounted.equal
  rw [one, none] at equal
  cases equal

end ZnsBench.Multipath.AdminAccounting

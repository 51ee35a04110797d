import PkgexecLinux.Capability.ForkedProbe
import PkgexecLinux.Filesystem.Realization

/-!
# The probe of a realization

`probe_isolated_realization` realizes an admission in a child.  The child's failure
travels twice: as a record that is written and read once, and as an exit code that
tells a refusal of permission from everything else.
-/

namespace PkgexecLinux.Capability

open Foundation Kernel Kernel.Delegation Filesystem

/-! ## The child -/

/-- The number of a stage. -/
def mountStageCode : MountStage → UInt32
  | .mountNamespace => 0
  | .privatePropagation => 1
  | .scratchMount => 2
  | .rootTree => 3
  | .resourceTree => 4
  | .inputNamespace => 5
  | .deviceFilesystem => 6
  | .rootEntry => 7

/-- `mount_setup_stage::probe_preparation`. -/
def preparationStage : UInt32 := 8

/-- `mount_setup_stage::capability_drop`. -/
def capabilityDropStage : UInt32 := 9

def enodev : Nat := 19

/-- What the child finds in the realized root: the error number that is left if `/dev/null`
is not a character device, cannot be opened, or takes no byte, and the errors of the calls
that drop the capabilities. -/
structure RootScript where
  statNull : Option Nat
  openNull : Option Nat
  writeNull : Option Nat
  capset : Option Nat
  ambient : Option Nat
  deriving DecidableEq, Repr

/-- An error number that is not zero, or the given one. -/
def orElse (errno other : Nat) : Nat := if errno = 0 then other else errno

/-- What the child of `probe_isolated_realization` finds wrong, in the order of its checks. -/
def realizationFinding {Root : Type} (setup : Except MountFailure Root) (script : RootScript) :
    Option SetupReport :=
  match setup with
  | .error failure => some ⟨mountStageCode failure.stage, UInt32.ofNat failure.error⟩
  | .ok _ =>
      match script.statNull, script.openNull, script.writeNull with
      | some errno, _, _ =>
          some ⟨mountStageCode .deviceFilesystem, UInt32.ofNat (orElse errno enodev)⟩
      | none, some errno, _ => some ⟨mountStageCode .deviceFilesystem, UInt32.ofNat errno⟩
      | none, none, some errno =>
          some ⟨mountStageCode .deviceFilesystem, UInt32.ofNat (orElse errno eio)⟩
      | none, none, none =>
          if dropProcessCapabilities script.capset script.ambient then none
          else
            some ⟨capabilityDropStage, UInt32.ofNat ((script.capset.or script.ambient).getD 0)⟩

/-- `probe_exit_code`. -/
def probeExitCode (error : UInt32) : Nat :=
  if error = UInt32.ofNat eperm ∨ error = UInt32.ofNat eacces then 2 else 1

/-- `send_failure` replaces an error number of zero. -/
def completed (report : SetupReport) : SetupReport :=
  if report.error = 0 then { report with error := UInt32.ofNat eio } else report

/-- What the child writes and its exit code, by its finding. -/
def realizationErrand (finding : Option SetupReport) : Option Errand :=
  match finding with
  | some report => some ⟨(completed report).bytes, probeExitCode (completed report).error⟩
  | none => some ⟨[], 0⟩

/-- The record is written once and read once. -/
def realizationManner (ignoresBrokenPipe : Bool) : Manner :=
  ⟨false, false, SetupReport.size, ignoresBrokenPipe⟩

/-! ## The parent -/

/-- What `probe_isolated_realization` makes of the bytes and the status. -/
def realizationVerdict (received : List UInt8) (waited : Option Ending) : Option SetupReport :=
  match statusOf waited with
  | .killed _ => some ⟨preparationStage, UInt32.ofNat eio⟩
  | .exited code =>
      if code = 0 then none
      else
        some ((SetupReport.ofBytes received).getD
          ⟨preparationStage, UInt32.ofNat (if code = 2 then eperm else eio)⟩)

/-- `probe_isolated_realization`, once its pipe and child exist: the failure that it reports,
or none if it returns true. -/
def probeIsolatedRealization (last : State) : Option (Option SetupReport) :=
  match last.parent with
  | .returned received waited => some (realizationVerdict received waited)
  | _ => none

/-- The state that `probe_isolated` derives from the answer of a probe and its failure. -/
def stateOfFailure : Option SetupReport → CapabilityState
  | none => .available
  | some report =>
      if report.error = UInt32.ofNat eperm ∨ report.error = UInt32.ofNat eacces then
        .policyRestricted
      else
        .unavailable

/-! ## Both ways agree -/

section Interleavings

variable {finding : Option SetupReport} {ignoresBrokenPipe : Bool} {last : State}

theorem realizationErrand_fits (ignoresBrokenPipe : Bool) (finding : Option SetupReport) :
    (realizationManner ignoresBrokenPipe).Fits (realizationErrand finding) where
  room := by
    cases finding with
    | none => exact Nat.zero_le _
    | some report => exact Nat.le_refl _
  once := fun _ => rfl

theorem probeExitCode_ne_zero (error : UInt32) : probeExitCode error ≠ 0 := by
  rw [probeExitCode]
  split <;> decide

/-- The exit code tells the state of the failure. -/
theorem state_of_exitCode (report : SetupReport) :
    stateOfFailure (some ⟨preparationStage,
      UInt32.ofNat (if probeExitCode report.error = 2 then eperm else eio)⟩) =
      stateOfFailure (some report) := by
  by_cases denied : report.error = UInt32.ofNat eperm ∨ report.error = UInt32.ofNat eacces
  · simp [stateOfFailure, probeExitCode, denied]
  · simp [stateOfFailure, probeExitCode, denied]
    decide

/-- Whatever has come of the record, the parent derives the same state. -/
theorem state_of_verdict {report : SetupReport} {received : List UInt8}
    (start : received <+: (completed report).bytes) :
    stateOfFailure (realizationVerdict received
      (some (.exited (probeExitCode (completed report).error)))) =
      stateOfFailure (some (completed report)) := by
  simp only [realizationVerdict, statusOf, if_neg (probeExitCode_ne_zero _)]
  rcases SetupReport.ofBytes_of_prefix start with ⟨_, decoded⟩ | ⟨_, undecoded⟩
  · rw [decoded]
    rfl
  · rw [undecoded]
    exact state_of_exitCode (completed report)

/-- The state derived from any answer. -/
theorem state_of_answer {answer : Option SetupReport}
    (run : Reaches (step (realizationManner ignoresBrokenPipe) (realizationErrand finding))
      unrestricted .initial last)
    (answered : probeIsolatedRealization last = some answer) :
    stateOfFailure answer = if last.reaped then .available
      else if wasKilled last then .unavailable
      else stateOfFailure (finding.map completed) := by
  rw [probeIsolatedRealization.eq_def] at answered
  split at answered
  next received waited returned =>
    cases answered
    have sound := sound_run run
    rcases sound.returned received waited returned with ⟨ending, ended, same⟩
    have start := (returned_run run returned).1
    cases lost : last.reaped with
    | true =>
        rw [same, lost]
        rfl
    | false =>
        rw [same, lost]
        cases ending with
        | killed signal =>
            simp only [wasKilled, ended, Bool.false_eq_true, if_false, if_true]
            rfl
        | exited code =>
            rcases sound.exited code ended with ⟨outcome, work, rfl⟩
            simp only [wasKilled, ended, Bool.false_eq_true, if_false]
            cases finding with
            | none =>
                cases work
                rfl
            | some report =>
                cases work
                exact state_of_verdict start
  next => cases answered

/-- The answer of an undisturbed run. -/
theorem answer_of_undisturbed {answer : Option SetupReport}
    (run : Reaches (step (realizationManner ignoresBrokenPipe) (realizationErrand finding))
      (undisturbed (realizationManner ignoresBrokenPipe)) .initial last)
    (answered : probeIsolatedRealization last = some answer) :
    answer = finding.map completed := by
  rw [probeIsolatedRealization.eq_def] at answered
  split at answered
  next received waited returned =>
    cases answered
    rcases settled_run (realizationErrand_fits ignoresBrokenPipe finding) run returned with
      ⟨outcome, work, rfl, rfl⟩
    cases finding with
    | none =>
        cases work
        rfl
    | some report =>
        cases work
        simp [realizationVerdict, statusOf, probeExitCode_ne_zero]
  next => cases answered

theorem stateOfFailure_eq_available {failure : Option SetupReport}
    (available : stateOfFailure failure = .available) : failure = none := by
  cases failure with
  | none => rfl
  | some report =>
      rw [stateOfFailure] at available
      split at available <;> cases available

end Interleavings

/-- A child that finds nothing wrong has realized the admission and dropped its
capabilities. -/
theorem realized_of_finding {Root : Type} {setup : Except MountFailure Root} {script : RootScript}
    (fine : realizationFinding setup script = none) :
    (∃ root, setup = .ok root) ∧
      dropProcessCapabilities script.capset script.ambient = true := by
  cases setup with
  | error failure => cases fine
  | ok root =>
      refine ⟨⟨root, rfl⟩, ?_⟩
      simp only [realizationFinding] at fine
      split at fine
      · cases fine
      · cases fine
      · cases fine
      · split at fine
        next dropped => exact dropped
        next => cases fine

/-- The probe of a realization over every interleaving.  The state that is derived from its
answer is that of the child's finding, whether the record has come whole, in part or not at
all; a killed child counts as unavailable, and a status that has gone to someone else as
available.  Where nothing disturbs the two, the answer is the child's report itself, and
where the status is not lost, true is answered only for an admission that was realized. -/
theorem probeIsolatedRealization_exact {Dir : Type} (kernel : MountKernel) (view : Dir → Tree)
    (admission : IsolatedAdmission Dir) (script : RootScript) (ignoresBrokenPipe : Bool) :
    (∀ last answer, Reaches (step (realizationManner ignoresBrokenPipe) (realizationErrand
        (realizationFinding (createPrivateRoot kernel view admission) script))) unrestricted
        .initial last →
      probeIsolatedRealization last = some answer →
      (stateOfFailure answer = if last.reaped then .available
        else if wasKilled last then .unavailable
        else stateOfFailure ((realizationFinding (createPrivateRoot kernel view admission)
          script).map completed)) ∧
      (answer = none → last.reaped = false → wasKilled last = false ∧
        (∃ root, createPrivateRoot kernel view admission = .ok root) ∧
        dropProcessCapabilities script.capset script.ambient = true)) ∧
    ∀ last answer, Reaches (step (realizationManner ignoresBrokenPipe) (realizationErrand
        (realizationFinding (createPrivateRoot kernel view admission) script)))
        (undisturbed (realizationManner ignoresBrokenPipe)) .initial last →
      probeIsolatedRealization last = some answer →
      answer = (realizationFinding (createPrivateRoot kernel view admission) script).map
        completed := by
  refine ⟨?_, fun last answer run answered => answer_of_undisturbed run answered⟩
  intro last answer run answered
  have state := state_of_answer run answered
  refine ⟨state, ?_⟩
  rintro rfl kept
  rw [kept] at state
  simp only [Bool.false_eq_true, if_false] at state
  cases killed : wasKilled last with
  | true =>
      rw [killed] at state
      cases state
  | false =>
      rw [killed] at state
      have fine := stateOfFailure_eq_available state.symm
      exact ⟨rfl, realized_of_finding (Option.map_eq_none_iff.mp fine)⟩

/-- A kernel that permits no call. -/
def forbidding : MountKernel := ⟨fun _ => some eperm, fun _ => ⟨1, 1⟩, fun _ _ => ⟨1, 2⟩, 0⟩

/-- An admission of one empty directory. -/
def bareAdmission : IsolatedAdmission Unit := ⟨(), [], [], .root⟩

/-- Half of the record gets into the pipe. -/
def halfRecord : List Move :=
  [.child .done, .child (.count 4), .parent .done, .child .done, .parent .done]

theorem probeIsolatedRealization_exact_half :
    ∃ last answer, probeIsolatedRealization last = some answer ∧
      answer ≠ some ⟨mountStageCode .rootTree, 1⟩ ∧ stateOfFailure answer = .policyRestricted := by
  have finding : realizationFinding (createPrivateRoot forbidding
      (fun _ => .directory ⟨1, 1⟩ []) bareAdmission) ⟨none, none, none, none, none⟩ =
      some ⟨mountStageCode .rootTree, 1⟩ := rfl
  have played : ((replay (step (realizationManner false)
      (realizationErrand (some ⟨mountStageCode .rootTree, 1⟩))) unrestricted halfRecord
      .initial).any fun last =>
        !last.reaped && !wasKilled last && (probeIsolatedRealization last).any fun answer =>
          answer != some ⟨mountStageCode .rootTree, 1⟩) = true := by
    decide
  rcases exists_reached played with ⟨last, run, test⟩
  simp only [Bool.and_eq_true, Bool.not_eq_true'] at test
  rcases (Option.any_eq_true _ _).mp test.2 with ⟨answer, answered, differs⟩
  rw [← finding] at run
  have exact := ((probeIsolatedRealization_exact forbidding (fun _ => .directory ⟨1, 1⟩ [])
    bareAdmission ⟨none, none, none, none, none⟩ false).1 last answer run answered).1
  rw [test.1.1, test.1.2, finding] at exact
  exact ⟨last, answer, answered, bne_iff_ne.mp differs, exact⟩

end PkgexecLinux.Capability

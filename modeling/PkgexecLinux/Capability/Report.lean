import PkgexecLinux.Capability.ForkedProbe
import PkgexecLinux.Capability.RealizationProbe
import PkgexecLinux.Supervisor.Outcome

/-!
# Capability reports

`capability_report::probe` and `capability_report::probe_isolated`: the guarantees that
go into the sealed profile and the observations beside it, from the answers of the
probes.  A guarantee is in the profile exactly if the observations of the same report
bear it out.
-/

namespace PkgexecLinux.Capability

open Supervisor

/-! ## Vocabulary -/

/-- `capability_kind`. -/
inductive CapabilityKind where
  | processSupervision
  | closedEnvironment
  | currentRootView
  | currentCredentials
  | writableResources
  | completeStreamCapture
  | processGroupContainment
  | noNewPrivileges
  | descriptorExecution
  | closeRange
  | pidfd
  | pidfdCancellation
  | mountNamespace
  | privateMountPropagation
  | openat2
  | openTree
  | moveMount
  | mountSetattr
  | chroot
  | capabilityDrop
  | userNamespace
  | pidNamespace
  | networkNamespace
  | landlock
  | cgroupV2
  | loopbackConfiguration
  | addressSpaceLimit
  | fileSizeLimit
  | openFilesLimit
  deriving DecidableEq, Repr

/-- `capability_observation`; every value of the enumerations is valid. -/
structure CapabilityObservation where
  capability : CapabilityKind
  state : CapabilityState
  diagnostic : String := ""
  deriving DecidableEq, Repr

/-- `capability_report`, with the guarantees as they are passed to
`backend_capability_profile::seal`. -/
structure CapabilityReport where
  guarantees : List Guarantee
  observations : List CapabilityObservation
  deriving DecidableEq, Repr

/-- `capability_report::state`; none where the source throws. -/
def CapabilityReport.state (report : CapabilityReport) (capability : CapabilityKind) :
    Option CapabilityState :=
  (report.observations.find? fun value => value.capability == capability).map (·.state)

/-! ## Resource limits -/

/-- `resource_limit_capabilities`. -/
structure LimitCapabilities where
  addressSpace : Bool
  fileSize : Bool
  openFiles : Bool
  deriving DecidableEq, Repr

/-- An element under a condition. -/
def onlyIf {Value : Type} (condition : Bool) (values : List Value) : List Value :=
  if condition then values else []

/-- `add_resource_limit_guarantees`. -/
def resourceLimitGuarantees (limits : LimitCapabilities) : List Guarantee :=
  if !limits.addressSpace && !limits.fileSize && !limits.openFiles then []
  else
    .resourceLimits :: (onlyIf limits.addressSpace [.addressSpaceLimit] ++
      onlyIf limits.fileSize [.fileSizeLimit] ++ onlyIf limits.openFiles [.openFilesLimit])

/-- The observation of one limit, by the name of its resource. -/
def limitObservation (capability : CapabilityKind) (resource : String) (available : Bool) :
    CapabilityObservation where
  capability := capability
  state := .ofBool available
  diagnostic :=
    if available then
      "exact " ++ resource ++ " realization and mutation sealing are available"
    else
      "exact " ++ resource ++ " realization could not be proved"

/-- `add_resource_limit_observations`. -/
def resourceLimitObservations (limits : LimitCapabilities) : List CapabilityObservation :=
  [limitObservation .addressSpaceLimit "RLIMIT_AS" limits.addressSpace,
    limitObservation .fileSizeLimit "RLIMIT_FSIZE" limits.fileSize,
    limitObservation .openFilesLimit "RLIMIT_NOFILE" limits.openFiles]

/-! ## The answers of the probes -/

/-- What both reports ask.  `pidfdCancellation` is the answer of
`probe_pidfd_cancellation`, which is asked only where groups are contained. -/
structure CommonAnswers where
  containment : Bool
  descriptorExecution : Bool
  pidfdCancellation : Bool
  limits : LimitCapabilities
  closeRange : Bool
  pidfd : Bool
  openat2 : Bool
  capabilityDrop : Bool
  userNamespace : CapabilityState
  pidNamespace : CapabilityState
  landlock : CapabilityState
  cgroupV2 : CapabilityState
  deriving DecidableEq, Repr

/-- `pidfd_cancellation` of both reports. -/
def CommonAnswers.cancellation (answers : CommonAnswers) : Bool :=
  answers.containment && answers.pidfdCancellation

def cancellationDiagnostic (available : Bool) : String :=
  if available then "pidfd-backed process-group cancellation is available"
  else "pidfd-backed process-group cancellation could not be realized"

/-- `capability_report::probe`. -/
def hostReport (answers : CommonAnswers) (mountNamespace networkNamespace : CapabilityState) :
    CapabilityReport where
  guarantees :=
    [.closedEnvironment, .rootView, .writableResources, .fixedCredentials,
      .completeStdoutCapture, .completeStderrCapture] ++
      onlyIf answers.descriptorExecution [.exactInterpreter] ++
      onlyIf answers.containment [.cleanupVerified] ++
      onlyIf answers.cancellation [.cancellation] ++ resourceLimitGuarantees answers.limits
  observations :=
    [⟨.processSupervision, .available, ""⟩,
      ⟨.closedEnvironment, .available, ""⟩,
      ⟨.currentRootView, .available, "only the current / root view is admitted"⟩,
      ⟨.currentCredentials, .available,
        "only the supervisor's current credentials are admitted"⟩,
      ⟨.writableResources, .available, "resources must already exist at their logical paths"⟩,
      ⟨.completeStreamCapture, .available, ""⟩,
      ⟨.processGroupContainment, .ofBool answers.containment, ""⟩,
      ⟨.noNewPrivileges, .ofBool answers.containment, ""⟩,
      ⟨.descriptorExecution, .ofBool answers.descriptorExecution, ""⟩,
      ⟨.closeRange, .ofBool answers.closeRange, ""⟩,
      ⟨.pidfd, .ofBool answers.pidfd, ""⟩,
      ⟨.pidfdCancellation, .ofBool answers.cancellation,
        cancellationDiagnostic answers.cancellation⟩,
      ⟨.mountNamespace, mountNamespace, ""⟩,
      ⟨.privateMountPropagation, .unavailable, "host supervisor creates no mount namespace"⟩,
      ⟨.openat2, .ofBool answers.openat2, ""⟩,
      ⟨.openTree, .unavailable, "host supervisor creates no detached mount trees"⟩,
      ⟨.moveMount, .unavailable, "host supervisor attaches no mount trees"⟩,
      ⟨.mountSetattr, .unavailable, "host supervisor applies no mount attributes"⟩,
      ⟨.chroot, .unavailable, "host supervisor enters no alternate root"⟩,
      ⟨.capabilityDrop, .ofBool answers.capabilityDrop, ""⟩,
      ⟨.userNamespace, answers.userNamespace, ""⟩,
      ⟨.pidNamespace, answers.pidNamespace, ""⟩,
      ⟨.networkNamespace, networkNamespace, ""⟩,
      ⟨.landlock, answers.landlock, ""⟩,
      ⟨.cgroupV2, answers.cgroupV2, ""⟩,
      ⟨.loopbackConfiguration, .unavailable,
        "host supervisor creates no private loopback view"⟩] ++
      resourceLimitObservations answers.limits

/-- What only the isolated report asks: the failures of the filesystem probe and of the two
network probes, none where the probe returns true. -/
structure IsolatedAnswers where
  common : CommonAnswers
  filesystem : Option SetupReport
  denied : Option SetupReport
  loopback : Option SetupReport
  deriving DecidableEq, Repr

def mountDiagnostic (strerror : UInt32 → String) : Option SetupReport → String
  | none => "private descriptor-oriented root and resource mounts are available"
  | some report => errnoMessage strerror (mountStageName report.stage) report.error

def networkDiagnostic (strerror : UInt32 → String) : Option SetupReport → String
  | none => "private network policy realization is available"
  | some report => errnoMessage strerror (networkStageName report.stage) report.error

/-- `capability_report::probe_isolated`. -/
def isolatedReport (strerror : UInt32 → String) (answers : IsolatedAnswers) :
    CapabilityReport where
  guarantees :=
    [.closedEnvironment, .fixedCredentials, .completeStdoutCapture, .completeStderrCapture] ++
      onlyIf answers.common.descriptorExecution [.exactInterpreter] ++
      onlyIf (answers.filesystem.isNone && answers.common.capabilityDrop)
        [.rootView, .readOnlyResources, .writableResources] ++
      onlyIf (answers.common.containment && answers.filesystem.isNone) [.cleanupVerified] ++
      onlyIf answers.common.cancellation [.cancellation] ++
      resourceLimitGuarantees answers.common.limits ++
      onlyIf (answers.common.containment && answers.common.capabilityDrop &&
        answers.denied.isNone) [.networkDenied] ++
      onlyIf (answers.common.containment && answers.common.capabilityDrop &&
        answers.loopback.isNone) [.loopbackIsolated]
  observations :=
    let mountState := stateOfFailure answers.filesystem
    let mounted := mountDiagnostic strerror answers.filesystem
    [⟨.processSupervision, .available, ""⟩,
      ⟨.closedEnvironment, .available, ""⟩,
      ⟨.currentRootView, mountState,
        if answers.filesystem.isNone then "the exact supplied root view is cloned read-only"
        else mounted⟩,
      ⟨.currentCredentials, .available,
        "only the supervisor's current numeric credentials are admitted"⟩,
      ⟨.writableResources, mountState, mounted⟩,
      ⟨.completeStreamCapture, .available, ""⟩,
      ⟨.processGroupContainment, .ofBool answers.common.containment, ""⟩,
      ⟨.noNewPrivileges, .ofBool answers.common.containment, ""⟩,
      ⟨.descriptorExecution, .ofBool answers.common.descriptorExecution, ""⟩,
      ⟨.closeRange, .ofBool answers.common.closeRange, ""⟩,
      ⟨.pidfd, .ofBool answers.common.pidfd, ""⟩,
      ⟨.pidfdCancellation, .ofBool answers.common.cancellation,
        cancellationDiagnostic answers.common.cancellation⟩,
      ⟨.mountNamespace, mountState, mounted⟩,
      ⟨.privateMountPropagation, mountState, mounted⟩,
      ⟨.openat2, .ofBool answers.common.openat2, ""⟩,
      ⟨.openTree, mountState, mounted⟩,
      ⟨.moveMount, mountState, mounted⟩,
      ⟨.mountSetattr, mountState, mounted⟩,
      ⟨.chroot, mountState, mounted⟩,
      ⟨.capabilityDrop, .ofBool answers.common.capabilityDrop, ""⟩,
      ⟨.userNamespace, answers.common.userNamespace,
        "observed only; isolated backend does not create a user namespace"⟩,
      ⟨.pidNamespace, answers.common.pidNamespace, ""⟩,
      ⟨.networkNamespace, stateOfFailure answers.denied,
        networkDiagnostic strerror answers.denied⟩,
      ⟨.landlock, answers.common.landlock, ""⟩,
      ⟨.cgroupV2, answers.common.cgroupV2, ""⟩,
      ⟨.loopbackConfiguration, stateOfFailure answers.loopback,
        networkDiagnostic strerror answers.loopback⟩] ++
      resourceLimitObservations answers.common.limits

/-! ## The profile follows from the observations -/

/-- The kinds in the order of the enumeration. -/
def CapabilityKind.all : List CapabilityKind :=
  [.processSupervision, .closedEnvironment, .currentRootView, .currentCredentials,
    .writableResources, .completeStreamCapture, .processGroupContainment, .noNewPrivileges,
    .descriptorExecution, .closeRange, .pidfd, .pidfdCancellation, .mountNamespace,
    .privateMountPropagation, .openat2, .openTree, .moveMount, .mountSetattr, .chroot,
    .capabilityDrop, .userNamespace, .pidNamespace, .networkNamespace, .landlock, .cgroupV2,
    .loopbackConfiguration, .addressSpaceLimit, .fileSizeLimit, .openFilesLimit]

/-- When a guarantee is in a profile, in terms of the observed states. -/
inductive ProfileRule where
  | never
  | all (kinds : List CapabilityKind)
  | any (kinds : List CapabilityKind)

def ProfileRule.Holds (report : CapabilityReport) : ProfileRule → Prop
  | .never => False
  | .all kinds => ∀ kind ∈ kinds, report.state kind = some .available
  | .any kinds => ∃ kind ∈ kinds, report.state kind = some .available

/-- The rules that the two reports share. -/
def commonRule : Guarantee → ProfileRule
  | .closedEnvironment => .all [.closedEnvironment]
  | .exactInterpreter => .all [.descriptorExecution]
  | .fixedCredentials => .all [.currentCredentials]
  | .completeStdoutCapture | .completeStderrCapture => .all [.completeStreamCapture]
  | .cancellation => .all [.pidfdCancellation]
  | .resourceLimits => .any [.addressSpaceLimit, .fileSizeLimit, .openFilesLimit]
  | .addressSpaceLimit => .all [.addressSpaceLimit]
  | .fileSizeLimit => .all [.fileSizeLimit]
  | .openFilesLimit => .all [.openFilesLimit]
  | .rootView | .readOnlyResources | .writableResources | .networkDenied | .loopbackIsolated
  | .cpuTimeLimit | .processCountLimit | .cleanupVerified => .never

/-- The rules of `capability_report::probe`. -/
def hostRule : Guarantee → ProfileRule
  | .rootView => .all [.currentRootView]
  | .writableResources => .all [.writableResources]
  | .cleanupVerified => .all [.processGroupContainment]
  | guarantee => commonRule guarantee

/-- The rules of `capability_report::probe_isolated`. -/
def isolatedRule : Guarantee → ProfileRule
  | .rootView => .all [.currentRootView, .capabilityDrop]
  | .readOnlyResources => .all [.mountSetattr, .capabilityDrop]
  | .writableResources => .all [.writableResources, .capabilityDrop]
  | .cleanupVerified => .all [.processGroupContainment, .mountNamespace]
  | .networkDenied => .all [.processGroupContainment, .capabilityDrop, .networkNamespace]
  | .loopbackIsolated =>
      .all [.processGroupContainment, .capabilityDrop, .loopbackConfiguration]
  | guarantee => commonRule guarantee

theorem ofBool_eq_available {available : Bool} :
    CapabilityState.ofBool available = .available ↔ available = true := by
  cases available <;> decide

theorem stateOfFailure_eq_available_iff {failure : Option SetupReport} :
    stateOfFailure failure = .available ↔ failure = none := by
  cases failure with
  | none => simp [stateOfFailure]
  | some report =>
      by_cases denied : report.error = UInt32.ofNat eperm ∨ report.error = UInt32.ofNat eacces
      · simp [stateOfFailure, denied]
      · simp [stateOfFailure, denied]

theorem mem_onlyIf {Value : Type} {condition : Bool} {values : List Value} {value : Value} :
    value ∈ onlyIf condition values ↔ condition = true ∧ value ∈ values := by
  cases condition <;> simp [onlyIf]

theorem mem_resourceLimitGuarantees {limits : LimitCapabilities} {guarantee : Guarantee} :
    guarantee ∈ resourceLimitGuarantees limits ↔
      guarantee = .resourceLimits ∧
          (limits.addressSpace = true ∨ limits.fileSize = true ∨ limits.openFiles = true) ∨
        guarantee = .addressSpaceLimit ∧ limits.addressSpace = true ∨
        guarantee = .fileSizeLimit ∧ limits.fileSize = true ∨
        guarantee = .openFilesLimit ∧ limits.openFiles = true := by
  rcases limits with ⟨addressSpace, fileSize, openFiles⟩
  cases addressSpace <;> cases fileSize <;> cases openFiles <;>
    simp [resourceLimitGuarantees, onlyIf]

theorem onlyIf_sublist {Value : Type} (condition : Bool) (values : List Value) :
    (onlyIf condition values).Sublist values := by
  cases condition with
  | true => exact List.Sublist.refl values
  | false => exact List.nil_sublist values

theorem resourceLimitGuarantees_sublist (limits : LimitCapabilities) :
    (resourceLimitGuarantees limits).Sublist
      [.resourceLimits, .addressSpaceLimit, .fileSizeLimit, .openFilesLimit] := by
  rcases limits with ⟨addressSpace, fileSize, openFiles⟩
  cases addressSpace <;> cases fileSize <;> cases openFiles <;> decide

/-- No guarantee is sealed twice. -/
theorem hostReport_nodup (answers : CommonAnswers)
    (mountNamespace networkNamespace : CapabilityState) :
    (hostReport answers mountNamespace networkNamespace).guarantees.Nodup := by
  have distinct : ([.closedEnvironment, .rootView, .writableResources, .fixedCredentials,
      .completeStdoutCapture, .completeStderrCapture, .exactInterpreter, .cleanupVerified,
      .cancellation, .resourceLimits, .addressSpaceLimit, .fileSizeLimit,
      .openFilesLimit] : List Guarantee).Nodup := by decide
  apply List.Nodup.sublist ?_ distinct
  simp only [hostReport]
  exact ((((List.Sublist.refl _).append (onlyIf_sublist _ _)).append
    (onlyIf_sublist _ _)).append (onlyIf_sublist _ _)).append (resourceLimitGuarantees_sublist _)

theorem isolatedReport_nodup (strerror : UInt32 → String) (answers : IsolatedAnswers) :
    (isolatedReport strerror answers).guarantees.Nodup := by
  have distinct : ([.closedEnvironment, .fixedCredentials, .completeStdoutCapture,
      .completeStderrCapture, .exactInterpreter, .rootView, .readOnlyResources,
      .writableResources, .cleanupVerified, .cancellation, .resourceLimits, .addressSpaceLimit,
      .fileSizeLimit, .openFilesLimit, .networkDenied,
      .loopbackIsolated] : List Guarantee).Nodup := by decide
  apply List.Nodup.sublist ?_ distinct
  simp only [isolatedReport]
  exact (((((((List.Sublist.refl _).append (onlyIf_sublist _ _)).append
    (onlyIf_sublist _ _)).append (onlyIf_sublist _ _)).append (onlyIf_sublist _ _)).append
    (resourceLimitGuarantees_sublist _)).append (onlyIf_sublist _ _)).append (onlyIf_sublist _ _)

/-- The states of the host report. -/
theorem hostReport_state (answers : CommonAnswers)
    (mountNamespace networkNamespace : CapabilityState) (kind : CapabilityKind) :
    (hostReport answers mountNamespace networkNamespace).state kind =
      some (match kind with
        | .processGroupContainment | .noNewPrivileges => .ofBool answers.containment
        | .descriptorExecution => .ofBool answers.descriptorExecution
        | .closeRange => .ofBool answers.closeRange
        | .pidfd => .ofBool answers.pidfd
        | .pidfdCancellation => .ofBool answers.cancellation
        | .mountNamespace => mountNamespace
        | .openat2 => .ofBool answers.openat2
        | .capabilityDrop => .ofBool answers.capabilityDrop
        | .userNamespace => answers.userNamespace
        | .pidNamespace => answers.pidNamespace
        | .networkNamespace => networkNamespace
        | .landlock => answers.landlock
        | .cgroupV2 => answers.cgroupV2
        | .addressSpaceLimit => .ofBool answers.limits.addressSpace
        | .fileSizeLimit => .ofBool answers.limits.fileSize
        | .openFilesLimit => .ofBool answers.limits.openFiles
        | .privateMountPropagation | .openTree | .moveMount | .mountSetattr | .chroot
        | .loopbackConfiguration => .unavailable
        | _ => .available) := by
  cases kind <;> rfl

/-- The states of the isolated report. -/
theorem isolatedReport_state (strerror : UInt32 → String) (answers : IsolatedAnswers)
    (kind : CapabilityKind) :
    (isolatedReport strerror answers).state kind =
      some (match kind with
        | .processGroupContainment | .noNewPrivileges => .ofBool answers.common.containment
        | .descriptorExecution => .ofBool answers.common.descriptorExecution
        | .closeRange => .ofBool answers.common.closeRange
        | .pidfd => .ofBool answers.common.pidfd
        | .pidfdCancellation => .ofBool answers.common.cancellation
        | .openat2 => .ofBool answers.common.openat2
        | .capabilityDrop => .ofBool answers.common.capabilityDrop
        | .userNamespace => answers.common.userNamespace
        | .pidNamespace => answers.common.pidNamespace
        | .networkNamespace => stateOfFailure answers.denied
        | .landlock => answers.common.landlock
        | .cgroupV2 => answers.common.cgroupV2
        | .loopbackConfiguration => stateOfFailure answers.loopback
        | .addressSpaceLimit => .ofBool answers.common.limits.addressSpace
        | .fileSizeLimit => .ofBool answers.common.limits.fileSize
        | .openFilesLimit => .ofBool answers.common.limits.openFiles
        | .currentRootView | .writableResources | .mountNamespace | .privateMountPropagation
        | .openTree | .moveMount | .mountSetattr | .chroot => stateOfFailure answers.filesystem
        | _ => .available) := by
  cases kind <;> rfl

/-- The guarantees of the host report, one by one. -/
theorem mem_hostReport (answers : CommonAnswers)
    (mountNamespace networkNamespace : CapabilityState) (guarantee : Guarantee) :
    guarantee ∈ (hostReport answers mountNamespace networkNamespace).guarantees ↔
      match guarantee with
      | .closedEnvironment | .rootView | .writableResources | .fixedCredentials
      | .completeStdoutCapture | .completeStderrCapture => True
      | .exactInterpreter => answers.descriptorExecution = true
      | .cleanupVerified => answers.containment = true
      | .cancellation => answers.cancellation = true
      | .resourceLimits => answers.limits.addressSpace = true ∨ answers.limits.fileSize = true ∨
          answers.limits.openFiles = true
      | .addressSpaceLimit => answers.limits.addressSpace = true
      | .fileSizeLimit => answers.limits.fileSize = true
      | .openFilesLimit => answers.limits.openFiles = true
      | .readOnlyResources | .networkDenied | .loopbackIsolated | .cpuTimeLimit
      | .processCountLimit => False := by
  simp only [hostReport, List.mem_append, mem_onlyIf, mem_resourceLimitGuarantees]
  cases guarantee <;> simp

/-- The guarantees of the isolated report, one by one. -/
theorem mem_isolatedReport (strerror : UInt32 → String) (answers : IsolatedAnswers)
    (guarantee : Guarantee) :
    guarantee ∈ (isolatedReport strerror answers).guarantees ↔
      match guarantee with
      | .closedEnvironment | .fixedCredentials | .completeStdoutCapture
      | .completeStderrCapture => True
      | .exactInterpreter => answers.common.descriptorExecution = true
      | .rootView | .readOnlyResources | .writableResources =>
          answers.filesystem = none ∧ answers.common.capabilityDrop = true
      | .cleanupVerified => answers.common.containment = true ∧ answers.filesystem = none
      | .cancellation => answers.common.cancellation = true
      | .resourceLimits => answers.common.limits.addressSpace = true ∨
          answers.common.limits.fileSize = true ∨ answers.common.limits.openFiles = true
      | .addressSpaceLimit => answers.common.limits.addressSpace = true
      | .fileSizeLimit => answers.common.limits.fileSize = true
      | .openFilesLimit => answers.common.limits.openFiles = true
      | .networkDenied => answers.common.containment = true ∧
          answers.common.capabilityDrop = true ∧ answers.denied = none
      | .loopbackIsolated => answers.common.containment = true ∧
          answers.common.capabilityDrop = true ∧ answers.loopback = none
      | .cpuTimeLimit | .processCountLimit => False := by
  simp only [isolatedReport, List.mem_append, mem_onlyIf, mem_resourceLimitGuarantees]
  cases guarantee <;> simp [and_assoc]

theorem hostReport_kinds (answers : CommonAnswers)
    (mountNamespace networkNamespace : CapabilityState) :
    (hostReport answers mountNamespace networkNamespace).observations.map (·.capability) =
      CapabilityKind.all := by
  simp only [hostReport, resourceLimitObservations, limitObservation, List.cons_append,
    List.nil_append, List.map_cons, List.map_nil, CapabilityKind.all]

theorem isolatedReport_kinds (strerror : UInt32 → String) (answers : IsolatedAnswers) :
    (isolatedReport strerror answers).observations.map (·.capability) =
      CapabilityKind.all := by
  simp only [isolatedReport, resourceLimitObservations, limitObservation, List.cons_append,
    List.nil_append, List.map_cons, List.map_nil, CapabilityKind.all]

theorem CapabilityKind.mem_all (kind : CapabilityKind) : kind ∈ CapabilityKind.all := by
  cases kind <;> decide

theorem CapabilityKind.all_nodup : CapabilityKind.all.Nodup := by decide

/-- Every kind is observed once in each report, in the order of the enumeration, so that
`state` never throws; no guarantee is sealed twice; and a guarantee is in the profile exactly
if the states of the same report satisfy its rule, whatever the probes have answered. -/
theorem reports_backed (strerror : UInt32 → String) (answers : CommonAnswers)
    (mountNamespace networkNamespace : CapabilityState) (isolated : IsolatedAnswers) :
    ((hostReport answers mountNamespace networkNamespace).observations.map (·.capability) =
        CapabilityKind.all ∧
      (isolatedReport strerror isolated).observations.map (·.capability) =
        CapabilityKind.all ∧
      CapabilityKind.all.Nodup ∧ ∀ kind, kind ∈ CapabilityKind.all) ∧
    ((hostReport answers mountNamespace networkNamespace).guarantees.Nodup ∧
      (isolatedReport strerror isolated).guarantees.Nodup) ∧
    (∀ guarantee, guarantee ∈ (hostReport answers mountNamespace networkNamespace).guarantees ↔
      (hostRule guarantee).Holds (hostReport answers mountNamespace networkNamespace)) ∧
    ∀ guarantee, guarantee ∈ (isolatedReport strerror isolated).guarantees ↔
      (isolatedRule guarantee).Holds (isolatedReport strerror isolated) := by
  refine ⟨⟨hostReport_kinds _ _ _, isolatedReport_kinds _ _, CapabilityKind.all_nodup,
    CapabilityKind.mem_all⟩, ⟨hostReport_nodup _ _ _, isolatedReport_nodup _ _⟩, ?_, ?_⟩
  · intro guarantee
    rw [mem_hostReport]
    cases guarantee <;>
      simp [hostRule, commonRule, ProfileRule.Holds, hostReport_state, ofBool_eq_available]
  · intro guarantee
    rw [mem_isolatedReport]
    cases guarantee <;>
      simp [isolatedRule, commonRule, ProfileRule.Holds, isolatedReport_state,
        ofBool_eq_available, stateOfFailure_eq_available_iff]

end PkgexecLinux.Capability

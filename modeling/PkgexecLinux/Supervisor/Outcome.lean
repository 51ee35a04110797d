import Mathlib.Data.List.Basic

/-!
# Execution results and the child's failure record

The vocabulary in which `execute_backend` reports: failure kinds, guarantees,
the result constructors it calls, and the record that the child writes into the
control pipe when its setup or its `execveat` fails.
-/

namespace PkgexecLinux.Supervisor

/-- `pkgexec::execution_failure_kind`, as far as this backend reports it. -/
inductive FailureKind where
  | backendUnsupported
  | requestRejected
  | resourceAdmissionFailed
  | interpreterUnavailable
  | isolationSetupFailed
  | processStartFailed
  | logCaptureFailed
  | cleanupFailed
  | programExitedNonzero
  | programTerminatedBySignal
  deriving DecidableEq, Repr

/-- `pkgexec::execution_guarantee`, as far as this backend names it. -/
inductive Guarantee where
  | closedEnvironment
  | exactInterpreter
  | rootView
  | readOnlyResources
  | writableResources
  | fixedCredentials
  | networkDenied
  | loopbackIsolated
  | resourceLimits
  | cpuTimeLimit
  | addressSpaceLimit
  | fileSizeLimit
  | openFilesLimit
  | processCountLimit
  | completeStdoutCapture
  | completeStderrCapture
  | cleanupVerified
  | cancellation
  deriving DecidableEq, Repr

inductive CleanupOutcome where
  | verified
  | failed
  deriving DecidableEq, Repr

/-- The part of `siginfo_t` that is used.  `unset` is the value-initialised
record. -/
inductive ExitInformation where
  | unset
  | exited (status : UInt32)
  | signaled (signal : UInt32)
  deriving DecidableEq, Repr

/-- `pkgexec::process_termination`. -/
inductive Termination where
  | exited (status : UInt32)
  | signaled (signal : UInt32)
  deriving DecidableEq, Repr

def terminationFromSiginfo : ExitInformation → Termination
  | .exited status => .exited status
  | .signaled signal => .signaled signal
  | .unset => .signaled 0

/-- What every started result carries. -/
structure StartedEvidence where
  interpreter : String
  output : Option (List UInt8)
  error : Option (List UInt8)
  established : List Guarantee
  deriving DecidableEq, Repr

/-- The results `execute_backend` constructs. -/
inductive Outcome where
  | failedBeforeStart (kind : FailureKind) (diagnostic : String)
  | cancelledBeforeStart (established : List Guarantee) (diagnostic : String)
  | succeeded (evidence : StartedEvidence)
  | failedAfterStart (evidence : StartedEvidence) (termination : Termination)
      (cleanup : CleanupOutcome) (kind : FailureKind) (diagnostic : String)
  | cancelledAfterStart (evidence : StartedEvidence) (cleanup : CleanupOutcome)
      (diagnostic : String)
  deriving DecidableEq, Repr

namespace Outcome

/-- The program ran, according to the result. -/
def started : Outcome → Bool
  | .failedBeforeStart .. => false
  | .cancelledBeforeStart .. => false
  | .succeeded .. => true
  | .failedAfterStart .. => true
  | .cancelledAfterStart .. => true

def cancelledAfter : Outcome → Bool
  | .cancelledAfterStart .. => true
  | _ => false

/-- The result carries `cleanup_outcome::verified`; success implies it. -/
def cleanupIsVerified : Outcome → Bool
  | .succeeded .. => true
  | .failedAfterStart _ _ cleanup _ _ => cleanup == .verified
  | .cancelledAfterStart _ cleanup _ => cleanup == .verified
  | _ => false

end Outcome

/-! ## The child's failure record -/

/-- `child_stage`. -/
inductive ChildStage where
  | processGroup
  | standardStreams
  | mountIsolation
  | networkIsolation
  | workingDirectory
  | capabilityDrop
  | containment
  | resourceLimits
  | execute
  deriving DecidableEq, Repr

namespace ChildStage

def code : ChildStage → UInt32
  | .processGroup => 0
  | .standardStreams => 1
  | .mountIsolation => 2
  | .networkIsolation => 3
  | .workingDirectory => 4
  | .capabilityDrop => 5
  | .containment => 6
  | .resourceLimits => 7
  | .execute => 8

/-- The stages whose report passes a detail; the others use its default. -/
def hasDetail : ChildStage → Bool
  | .mountIsolation | .networkIsolation | .resourceLimits => true
  | _ => false

/-- Stages in the order of their codes. -/
def all : List ChildStage :=
  [.processGroup, .standardStreams, .mountIsolation, .networkIsolation,
    .workingDirectory, .capabilityDrop, .containment, .resourceLimits, .execute]

/-- The enumerator of a stored stage, if it is one. -/
def ofCode (code : UInt32) : Option ChildStage := all[code.toNat]?

@[simp] theorem ofCode_code (stage : ChildStage) : ofCode stage.code = some stage := by
  cases stage <;> rfl

end ChildStage

/-- `child_error`; `value` is the bit pattern of the signed error number. -/
structure ChildError where
  stage : UInt32
  value : UInt32
  detail : UInt32
  deriving DecidableEq, Repr

/-- In-memory representation of a 32-bit word, least significant byte first. -/
def wordBytes (word : UInt32) : List UInt8 :=
  [UInt8.ofNat word.toNat, UInt8.ofNat (word.toNat / 256),
    UInt8.ofNat (word.toNat / 65536), UInt8.ofNat (word.toNat / 16777216)]

def wordOfBytes (first second third fourth : UInt8) : UInt32 :=
  UInt32.ofNat (first.toNat + 256 * second.toNat + 65536 * third.toNat +
    16777216 * fourth.toNat)

namespace ChildError

/-- `sizeof(child_error)`. -/
def size : Nat := 12

def bytes (failure : ChildError) : List UInt8 :=
  wordBytes failure.stage ++ wordBytes failure.value ++ wordBytes failure.detail

/-- The `memcpy` of a complete record. -/
def ofBytes : List UInt8 → Option ChildError
  | [a₀, a₁, a₂, a₃, b₀, b₁, b₂, b₃, c₀, c₁, c₂, c₃] =>
      some ⟨wordOfBytes a₀ a₁ a₂ a₃, wordOfBytes b₀ b₁ b₂ b₃, wordOfBytes c₀ c₁ c₂ c₃⟩
  | _ => none

@[simp] theorem length_bytes (failure : ChildError) : failure.bytes.length = size := rfl

end ChildError

/-- `ENOENT`. -/
def noSuchEntry : UInt32 := 2

def childFailureKind (failure : ChildError) : FailureKind :=
  match ChildStage.ofCode failure.stage with
  | some .workingDirectory | some .resourceLimits => .resourceAdmissionFailed
  | some .mountIsolation | some .networkIsolation | some .capabilityDrop
  | some .containment | some .processGroup => .isolationSetupFailed
  | some .standardStreams => .processStartFailed
  | some .execute =>
      if failure.value = noSuchEntry then .interpreterUnavailable else .processStartFailed
  | none => .processStartFailed

/-- `mount_stage_name`, by the code of the stage. -/
def mountStageName (stage : UInt32) : String :=
  (["mount namespace", "private mount propagation", "private scratch mount",
    "root mount tree", "resource mount tree", "private input namespace",
    "private device filesystem", "root-view entry", "isolated probe preparation",
    "capability drop", "parent isolation scratch cleanup",
    "isolated probe fixture cleanup", "isolated probe material cleanup",
    "isolated probe resource-target cleanup", "isolated probe device-target cleanup",
    "isolated probe root-view cleanup",
    "isolated probe fixture-root cleanup"][stage.toNat]?).getD "mount isolation"

/-- `network_stage_name`, by the code of the stage. -/
def networkStageName (stage : UInt32) : String :=
  (["network namespace", "network link inspection", "loopback configuration",
    "network policy validation",
    "loopback round trip"][stage.toNat]?).getD "network isolation"

/-- `resource_limit_stage_name`, by the code of the stage. -/
def resourceLimitStageName (stage : UInt32) : String :=
  (["address-space resource limit", "file-size resource limit",
    "open-files resource limit"][stage.toNat]?).getD "resource limit"

/-- `errno_message`, over the C library's error texts. -/
def errnoMessage (strerror : UInt32 → String) (operation : String) (value : UInt32) :
    String :=
  operation ++ ": " ++ strerror value

/-- The operation named by the diagnostic of a failure record. -/
def childFailureOperation (failure : ChildError) : String :=
  match ChildStage.ofCode failure.stage with
  | some .processGroup => "setsid"
  | some .standardStreams => "standard stream setup"
  | some .mountIsolation => mountStageName failure.detail
  | some .networkIsolation => networkStageName failure.detail
  | some .workingDirectory => "chdir"
  | some .capabilityDrop => "capability drop"
  | some .containment => "seccomp containment"
  | some .resourceLimits => resourceLimitStageName failure.detail
  | some .execute => "execve"
  | none => "child setup"

def childFailureDiagnostic (strerror : UInt32 → String) (failure : ChildError) : String :=
  errnoMessage strerror (childFailureOperation failure) failure.value

/-- `without_guarantee`. -/
def withoutGuarantee (input : List Guarantee) (removed : Guarantee) : List Guarantee :=
  input.filter fun value => value != removed

/-- `unsupported_guarantees_diagnostic`. -/
def unsupportedGuaranteesDiagnostic (name : Guarantee → String)
    (profile required : List Guarantee) : String :=
  (required.filter fun guarantee => !profile.contains guarantee).foldl
    (fun message guarantee => message ++ " " ++ name guarantee)
    "Linux backend cannot establish required guarantees:"

end PkgexecLinux.Supervisor

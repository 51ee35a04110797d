import PkgexecLinux.Supervisor.State

/-!
# Classification of a finished execution

The part of `execute_backend` after the loop, as a function of the local
variables and of the answer of `verify_parent_cleanup`.
-/

namespace PkgexecLinux.Supervisor

/-- `cleanup_verified`. -/
def Locals.cleanupVerified (locals : Locals) (mountCleaned : Bool) : Bool :=
  locals.cleanupComplete && !locals.cleanupFailed && mountCleaned

/-- Result for a nonempty failure record. -/
def recordOutcome (config : Config) (bytes : List UInt8) (mountCleaned : Bool) : Outcome :=
  match ChildError.ofBytes bytes with
  | some failure =>
      let diagnostic := childFailureDiagnostic config.strerror failure
      .failedBeforeStart (childFailureKind failure)
        (if mountCleaned then diagnostic
          else diagnostic ++ "; parent isolation scratch cleanup failed")
  | none => .failedBeforeStart .processStartFailed "truncated child setup failure record"

/-- The captures and established guarantees of a started result. -/
def startedEvidence (config : Config) (locals : Locals) (cleanupVerified : Bool) :
    StartedEvidence where
  interpreter := config.interpreter
  output :=
    if config.captureOutput && !locals.captureFailed then some locals.outputMaterial
    else none
  error :=
    if config.captureError && !locals.captureFailed then some locals.errorMaterial
    else none
  established :=
    let captured :=
      if locals.captureFailed then
        withoutGuarantee
          (withoutGuarantee config.requiredGuarantees .completeStdoutCapture)
          .completeStderrCapture
      else
        config.requiredGuarantees
    if cleanupVerified then captured else withoutGuarantee captured .cleanupVerified

/-- Result of an execution whose `execveat` was confirmed. -/
def startedOutcome (config : Config) (locals : Locals) (cleanupVerified : Bool) : Outcome :=
  let evidence := startedEvidence config locals cleanupVerified
  let termination := terminationFromSiginfo locals.childInformation
  if locals.captureFailed then
    .failedAfterStart evidence termination
      (if cleanupVerified then .verified else .failed) .logCaptureFailed
      "complete stream capture failed"
  else if !cleanupVerified then
    .failedAfterStart evidence termination .failed .cleanupFailed
      "process-group or mount cleanup could not be verified"
  else if locals.cancellationSignalDelivered then
    .cancelledAfterStart evidence .verified
      (if locals.forcedSignalSent then
        "cancellation required forced process-group termination"
      else
        "cancellation completed during the graceful period")
  else
    match locals.childInformation with
    | .exited status =>
        if status = 0 then .succeeded evidence
        else .failedAfterStart evidence termination .verified .programExitedNonzero ""
    | _ => .failedAfterStart evidence termination .verified .programTerminatedBySignal ""

/-- The result constructed after the loop. -/
def classify (config : Config) (locals : Locals) (mountCleaned : Bool) : Outcome :=
  let cleanupVerified := locals.cleanupVerified mountCleaned
  if locals.controlBytes ≠ [] then
    recordOutcome config locals.controlBytes mountCleaned
  else if locals.cancellationObserved && locals.cancellationBeforeStart then
    if cleanupVerified then
      .cancelledBeforeStart [.cancellation]
        "cancellation was requested before the final program-start gate"
    else
      .failedBeforeStart .isolationSetupFailed
        "pre-start cancellation cleanup could not be verified"
  else if !locals.execConfirmed then
    if cleanupVerified then
      .failedBeforeStart .processStartFailed
        "child terminated before descriptor execution was confirmed"
    else
      .failedBeforeStart .isolationSetupFailed
        "pre-start termination cleanup could not be verified"
  else
    startedOutcome config locals cleanupVerified

theorem started_recordOutcome (config : Config) (bytes : List UInt8) (mountCleaned : Bool) :
    (recordOutcome config bytes mountCleaned).started = false := by
  unfold recordOutcome
  split <;> rfl

/-- A started result needs a confirmed `execveat`, and no failure record. -/
theorem started_classify {config : Config} {locals : Locals} {mountCleaned : Bool}
    (started : (classify config locals mountCleaned).started = true) :
    locals.controlBytes = [] ∧ locals.execConfirmed = true := by
  unfold classify at started
  simp only at started
  split at started
  next => simp [started_recordOutcome] at started
  next empty =>
    refine ⟨by simpa using empty, ?_⟩
    split at started
    next => split at started <;> simp [Outcome.started] at started
    next =>
      split at started
      next => split at started <;> simp [Outcome.started] at started
      next confirmed => simpa using confirmed

/-- A result without start evidence has one of three causes. -/
theorem not_started_classify {config : Config} {locals : Locals} {mountCleaned : Bool}
    (notStarted : (classify config locals mountCleaned).started = false) :
    locals.controlBytes ≠ [] ∨
      (locals.cancellationObserved = true ∧ locals.cancellationBeforeStart = true) ∨
      locals.execConfirmed = false := by
  by_contra none
  push Not at none
  rcases none with ⟨empty, notBefore, confirmed⟩
  have confirmed : locals.execConfirmed = true := by simpa using confirmed
  have notBefore :
      ¬(locals.cancellationObserved && locals.cancellationBeforeStart) = true := by
    simpa using notBefore
  simp only [classify, empty, ne_eq, not_true_eq_false, if_false, notBefore, confirmed,
    Bool.not_true, Bool.false_eq_true, startedOutcome] at notStarted
  repeat' split at notStarted
  all_goals simp [Outcome.started] at notStarted

/-- `cancelled_after_start` needs a delivered cancellation signal. -/
theorem cancelledAfter_classify {config : Config} {locals : Locals} {mountCleaned : Bool}
    (cancelled : (classify config locals mountCleaned).cancelledAfter = true) :
    locals.cancellationSignalDelivered = true := by
  by_contra undelivered
  simp only [classify, startedOutcome, recordOutcome, undelivered] at cancelled
  repeat' split at cancelled
  all_goals simp_all [Outcome.cancelledAfter]

/-- Verified cleanup in a result is the verified cleanup of the loop. -/
theorem cleanupIsVerified_classify {config : Config} {locals : Locals}
    {mountCleaned : Bool}
    (verified : (classify config locals mountCleaned).cleanupIsVerified = true) :
    locals.cleanupComplete = true ∧ locals.cleanupFailed = false := by
  have implied : locals.cleanupVerified mountCleaned = true := by
    by_contra unverified
    simp only [classify, startedOutcome, recordOutcome, unverified] at verified
    repeat' split at verified
    all_goals simp_all [Outcome.cleanupIsVerified]
  simp only [Locals.cleanupVerified, Bool.and_eq_true, Bool.not_eq_true'] at implied
  exact implied.1

end PkgexecLinux.Supervisor

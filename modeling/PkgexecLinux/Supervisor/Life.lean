import PkgexecLinux.Supervisor.FailureRecord

/-!
# The life of the child

From its fork to its end the child makes the calls of `child_main`, and the supervisor
learns of them through the control pipe and through `waitid`.  This module says what
any step can do to that part of the system.
-/

namespace PkgexecLinux.Supervisor

open Foundation Kernel Process

/-- A call of `child_main` that moves its setup on, or ends it with a report. -/
inductive SetupCall where
  | made (stage : ChildStage)
  | failed (stage : ChildStage) (failure : ChildError)
  deriving DecidableEq, Repr

/-- The setup call that a move makes. -/
def setupCall (move : Move) (phase : ChildPhase) : Option SetupCall :=
  match move, phase with
  | .child .succeed, .setup (stage :: _) => some (.made stage)
  | .child (.fail value detail), .setup (stage :: _) =>
      some (.failed stage (childError stage value detail))
  | .child (.fail value detail), .executing =>
      some (.failed .execute (childError .execute value detail))
  | _, _ => none

/-- The setup calls in the course of a schedule. -/
def setupCalls (config : Config) (moves : List Move) (first : System) : List SetupCall :=
  (transcript (step config) moves first).filterMap fun entry =>
    setupCall entry.2 entry.1.child.phase

/-- What a result says about the end of the program. -/
def Outcome.Reports (information : ExitInformation) : Outcome → Prop
  | .succeeded _ => information = .exited 0
  | .failedAfterStart _ termination _ kind _ =>
      termination = terminationFromSiginfo information ∧
        (kind = .programExitedNonzero → ∃ status, status ≠ 0 ∧ information = .exited status) ∧
        (kind = .programTerminatedBySignal → ∃ signal, information = .signaled signal)
  | _ => True

/-- The part of the system that tells the life of the child. -/
structure Life where
  verdict : Option Outcome
  phase : ChildPhase
  committed : Bool
  exited : Bool
  information : ExitInformation

def System.life (system : System) : Life where
  verdict := system.outcome?
  phase := system.child.phase
  committed := system.child.committed
  exited := system.locals.childExited
  information := system.locals.childInformation

/-- A phase that follows another in `child_main` without a setup call. -/
inductive ChildPhase.Follows : ChildPhase → ChildPhase → Prop where
  | readied : Follows (.setup []) .awaitingStart
  | started : Follows .awaitingStart .closingDescriptors
  | closed : Follows .closingDescriptors .executing
  | written (sent rest : List UInt8) (status : UInt32) :
      Follows (.reporting (sent ++ rest) status) (.reporting rest status)

/-- Everything a step can do to the life of the child, with the setup call that it makes. -/
inductive LifeStep (config : Config) (life : Life) : Option SetupCall → Life → Prop where
  | stutter : LifeStep config life none life
  | refuse (outcome : Outcome) : outcome.started = false →
      LifeStep config life none { life with verdict := some outcome }
  | fork : life.phase = .unborn →
      LifeStep config life none
        { life with phase := .setup (childStages config.isolated), committed := false }
  | made (stage : ChildStage) (pending : List ChildStage) :
      life.phase = .setup (stage :: pending) →
      LifeStep config life (some (.made stage)) { life with phase := .setup pending }
  | failedSetup (stage : ChildStage) (pending : List ChildStage) (value detail : UInt32) :
      life.phase = .setup (stage :: pending) →
      LifeStep config life (some (.failed stage (childError stage value detail)))
        { life with phase := .reporting (childError stage value detail).bytes 125 }
  | failedExecute (value detail : UInt32) : life.phase = .executing →
      LifeStep config life (some (.failed .execute (childError .execute value detail)))
        { life with phase := .reporting (childError .execute value detail).bytes 127 }
  | onward (phase : ChildPhase) : life.phase.Follows phase →
      LifeStep config life none { life with phase }
  | commit : life.phase = .executing →
      LifeStep config life none { life with phase := .program, committed := true }
  | ended (information : ExitInformation) : information ≠ .unset →
      life.phase.stopped = false →
      LifeStep config life none { life with phase := .zombie information }
  | exitSeen (information : ExitInformation) : life.verdict = none →
      life.phase = .zombie information →
      LifeStep config life none { life with exited := true, information }
  | reap (information : ExitInformation) : life.phase = .zombie information →
      LifeStep config life none { life with phase := .reaped }
  | abandoned (outcome : Outcome) : outcome.started = false → life.phase.stopped = true →
      LifeStep config life none { life with verdict := some outcome, phase := .reaped }
  | conclude (outcome : Outcome) :
      (outcome.started = true → life.exited = true ∧
        (life.information ≠ .unset → outcome.Reports life.information)) →
      LifeStep config life none { life with verdict := some outcome }

section Inversion

variable {config : Config} {answer : Answer} {system next : System}

/-- A started result says what the supervisor has learned of the end of the program. -/
theorem reports_classify {locals : Locals} {mountCleaned : Bool}
    (started : (classify config locals mountCleaned).started = true)
    (seen : locals.childInformation ≠ .unset) :
    (classify config locals mountCleaned).Reports locals.childInformation := by
  rcases started_classify started with ⟨empty, confirmed⟩
  simp only [classify, empty, ne_eq, not_true_eq_false, if_false, confirmed] at started ⊢
  split at started
  next => split at started <;> cases started
  next before =>
    rw [if_neg before]
    simp only [Bool.not_true, Bool.false_eq_true, if_false, startedOutcome]
    split
    · refine ⟨rfl, fun kind => ?_, fun kind => ?_⟩ <;> cases kind
    split
    · refine ⟨rfl, fun kind => ?_, fun kind => ?_⟩ <;> cases kind
    split
    · trivial
    split
    next status exit =>
      split
      next zero => rw [Outcome.Reports, exit, zero]
      next positive =>
        refine ⟨rfl, fun _ => ⟨status, positive, exit⟩, fun kind => ?_⟩
        cases kind
    next other =>
      refine ⟨rfl, fun kind => ?_, fun _ => ?_⟩
      · cases kind
      cases found : locals.childInformation with
      | unset => exact absurd found seen
      | exited status => exact absurd found (other status)
      | signaled signal => exact ⟨signal, rfl⟩

/-- The child stops running. -/
theorem life_endChild {information : ExitInformation} (known : information ≠ .unset)
    (running : system.child.phase.stopped = false) :
    LifeStep config system.life none (system.endChild information).life :=
  .ended information known running

theorem life_childReport {answer : ChildAnswer} {record : List UInt8} {status : UInt32}
    (phase : system.child.phase = .reporting record status)
    (taken : system.childReport record status answer = some next) :
    LifeStep config system.life none next.life := by
  have ends : LifeStep config system.life none (system.endChild (.exited status)).life :=
    life_endChild nofun (by rw [phase]; rfl)
  have writes : ∀ sent rest, record = sent ++ rest →
      LifeStep config system.life none
        { system.life with phase := .reporting rest status } := by
    intro sent rest cut
    apply LifeStep.onward
    rw [show system.life.phase = system.child.phase from rfl, phase, cut]
    exact .written sent rest status
  cases answer with
  | interrupted =>
      cases taken
      exact .stutter
  | exit code => cases taken
  | fail value detail =>
      cases taken
      exact ends
  | succeed =>
      simp only [System.childReport] at taken
      split at taken <;> cases taken
      · exact ends
      · exact writes record [] (List.append_nil record).symm
  | count bytes =>
      simp only [System.childReport] at taken
      split at taken <;> cases taken
      · exact ends
      · exact writes _ _ (List.take_append_drop (max 1 bytes) record).symm

theorem life_childReady {answer : ChildAnswer} (phase : system.child.phase = .setup [])
    (taken : system.childReady answer = some next) :
    LifeStep config system.life none next.life := by
  have ends : LifeStep config system.life none (system.endChild (.exited 125)).life :=
    life_endChild nofun (by rw [phase]; rfl)
  have readies : LifeStep config system.life none
      { system.life with phase := .awaitingStart } := by
    apply LifeStep.onward
    rw [show system.life.phase = system.child.phase from rfl, phase]
    exact .readied
  cases answer with
  | interrupted =>
      cases taken
      exact .stutter
  | exit code => cases taken
  | fail value detail =>
      cases taken
      exact ends
  | succeed | count bytes =>
      simp only [System.childReady] at taken
      split at taken <;> cases taken
      · exact readies
      · exact ends

theorem life_childAwaitStart {answer : ChildAnswer} (phase : system.child.phase = .awaitingStart)
    (taken : system.childAwaitStart answer = some next) :
    LifeStep config system.life none next.life := by
  have running : system.life.phase.stopped = false := by
    rw [show system.life.phase = system.child.phase from rfl, phase]
    rfl
  have ends : ∀ start, LifeStep config system.life none
      ({ system with start := start }.endChild (.exited 125)).life :=
    fun _ => .ended _ nofun running
  have starts : LifeStep config system.life none
      { system.life with phase := .closingDescriptors } := by
    apply LifeStep.onward
    rw [show system.life.phase = system.child.phase from rfl, phase]
    exact .started
  cases answer with
  | interrupted =>
      cases taken
      exact .stutter
  | exit code => cases taken
  | fail value detail =>
      cases taken
      exact ends system.start
  | succeed | count bytes =>
      simp only [System.childAwaitStart] at taken
      split at taken
      next byte rest _ =>
        split at taken <;> cases taken
        · exact starts
        · exact ends rest
      next =>
        split at taken <;> cases taken
        exact ends system.start

theorem life_childStep {answer : ChildAnswer}
    (taken : childStep config answer system = some next) :
    LifeStep config system.life (setupCall (.child answer) system.child.phase) next.life := by
  cases phase : system.child.phase with
  | unborn | zombie _ | reaped => simp [childStep, phase] at taken
  | setup stages =>
      cases stages with
      | nil =>
          simp only [childStep, phase] at taken
          have quiet : setupCall (.child answer) (.setup []) = none := by
            cases answer <;> rfl
          rw [quiet]
          exact life_childReady phase taken
      | cons stage pending =>
          simp only [childStep, phase] at taken
          cases answer with
          | succeed =>
              cases taken
              exact .made stage pending phase
          | fail value detail =>
              cases taken
              exact .failedSetup stage pending value detail phase
          | interrupted | count _ | exit _ => cases taken
  | reporting record status =>
      simp only [childStep, phase] at taken
      have quiet : setupCall (.child answer) (.reporting record status) = none := by
        cases answer <;> rfl
      rw [quiet]
      exact life_childReport phase taken
  | awaitingStart =>
      simp only [childStep, phase] at taken
      have quiet : setupCall (.child answer) .awaitingStart = none := by
        cases answer <;> rfl
      rw [quiet]
      exact life_childAwaitStart phase taken
  | closingDescriptors =>
      simp only [childStep, phase] at taken
      have quiet : setupCall (.child answer) .closingDescriptors = none := by
        cases answer <;> rfl
      rw [quiet]
      cases taken
      apply LifeStep.onward
      rw [show system.life.phase = system.child.phase from rfl, phase]
      exact .closed
  | executing =>
      simp only [childStep, phase] at taken
      cases answer with
      | succeed =>
          cases taken
          exact .commit phase
      | fail value detail =>
          cases taken
          exact .failedExecute value detail phase
      | interrupted | count _ | exit _ => cases taken
  | program =>
      simp only [childStep, phase] at taken
      cases answer with
      | exit status =>
          cases taken
          exact life_endChild nofun (by rw [phase]; rfl)
      | succeed | fail _ _ | interrupted | count _ => cases taken

theorem life_observeChildExit (here : system.place = .observeChildExit) :
    LifeStep config system.life none (system.observeChildExit answer).life := by
  rcases system with ⟨place, locals, child, control, ready, output, error, start, token,
    clock, table, log⟩
  cases here
  simp only [System.observeChildExit]
  split
  · exact .stutter
  · split
    · exact .stutter
    · exact .stutter
    next information _ _ phase => exact .exitSeen information rfl phase
    · exact .stutter

/-- `waitpid` for a child that is known to have exited. -/
theorem life_reap {target : Place} (stays : (system.goto target).outcome? = system.outcome?) :
    LifeStep config system.life none
      ((system.reap.set { system.locals with childReaped := true }).goto target).life := by
  simp only [System.reap]
  split
  next information phase =>
    have life : (((system.setPhase .reaped).set
        { system.locals with childReaped := true }).goto target).life =
        { system.life with verdict := (system.goto target).outcome?, phase := .reaped } := rfl
    rw [life, stays]
    exact .reap information phase
  next =>
    have life : ((system.set { system.locals with childReaped := true }).goto target).life =
        { system.life with verdict := (system.goto target).outcome? } := rfl
    rw [life, stays]
    exact .stutter

theorem life_supervisorStep (sound : system.GateSound)
    (taken : supervisorStep config answer system = some next) :
    LifeStep config system.life none next.life := by
  have unborn : system.gate.region = .admission → system.child.phase = .unborn :=
    sound.1.unborn
  have verifying : system.gate.region = .verifying → system.locals.childExited = true :=
    fun here => sound.2.reaped (sound.1.verifying here).1
  rcases system with ⟨place, locals, child, control, ready, output, error, start, token,
    clock, table, log⟩
  cases place with
  | checkSupport =>
      cases taken
      split
      · exact .stutter
      · exact .refuse _ rfl
  | checkBeforeAdmission | checkBeforeInterpreter | checkBeforeFork =>
      cases taken
      simp only [System.checkToken]
      split
      · exact .refuse _ rfl
      · exact .stutter
  | validateShape | admitInterpreter | makePipes =>
      cases taken
      simp only [System.checkVerdict]
      split
      · exact .stutter
      · exact .refuse _ rfl
      · exact .refuse _ rfl
  | admitResources =>
      cases taken
      simp only [System.checkVerdict]
      repeat' split
      · exact .stutter
      · exact .refuse _ rfl
      · exact .refuse _ rfl
      · exact .stutter
  | fork =>
      cases taken
      simp only [System.fork]
      split
      · exact .refuse _ rfl
      · simp only [System.forked]
        split
        · exact .fork (unborn rfl)
        · exact .fork (unborn rfl)
  | openPidfd =>
      cases taken
      simp only [System.openPidfd]
      split <;> exact .stutter
  | waitChild errno =>
      simp only [supervisorStep, System.waitChild] at taken
      split at taken
      · cases taken
        exact .stutter
      · split at taken <;> cases taken
        next stopped => exact .abandoned _ rfl stopped
  | loopHead | loopEnd =>
      cases taken
      split <;> exact .stutter
  | startGate | sendCancellationSignal | escalate =>
      cases taken
      simp only [System.startGate, System.sendCancellationSignal, System.escalate]
      split <;> exact .stutter
  | killChild _ | cancellationClock | readClock | beginWait =>
      cases taken
      exact .stutter
  | observeChildExit =>
      cases taken
      exact life_observeChildExit rfl
  | observeCancellation | gateCancellation =>
      cases taken
      simp only [System.gateCancellation, System.observeCancellation]
      repeat' split
      all_goals exact .stutter
  | writeStart =>
      cases taken
      simp only [System.writeStart]
      repeat' split
      all_goals exact .stutter
  | signalling site pass =>
      cases taken
      simp only [System.signalling]
      split
      · exact .stutter
      · exact .stutter
      · cases site <;> exact .stutter
  | startCleanup | continueCleanup | checkCleanupDeadline =>
      cases taken
      simp only [System.startCleanup, System.continueCleanup, System.checkCleanupDeadline]
      repeat' split
      all_goals exact .stutter
  | waiting wait =>
      cases taken
      simp only [System.waiting]
      split <;> exact .stutter
  | reapControlled | reapUncontrolled =>
      cases taken
      simp only [System.reapControlled, System.reapUncontrolled]
      split
      · split
        · exact .stutter
        · exact life_reap rfl
      · exact .stutter
  | cleaningGroup phase =>
      cases taken
      simp only [System.cleaningGroup]
      split <;> exact .stutter
  | drainOutput | drainError =>
      cases taken
      simp only [System.drainOutput, System.drainError]
      repeat' split
      all_goals exact .stutter
  | readControl | readReady =>
      cases taken
      simp only [System.readControl, System.readReady]
      repeat' split
      all_goals exact .stutter
  | verifyParentCleanup =>
      cases taken
      refine .conclude _ fun started => ⟨verifying rfl, fun seen => ?_⟩
      exact reports_classify started seen
  | returned outcome => simp [supervisorStep] at taken
  | threw => simp [supervisorStep] at taken
  | terminated => simp [supervisorStep] at taken

/-- Every step of the system is a step of the child's life. -/
theorem life_step {move : Move} (sound : system.GateSound)
    (taken : step config move system = some next) :
    LifeStep config system.life (setupCall move system.child.phase) next.life := by
  cases stepped_of_step taken with
  | supervisor taken => exact life_supervisorStep sound taken
  | child taken => exact life_childStep taken
  | kill signal running => exact life_endChild nofun running
  | reapElsewhere information phase => exact .reap information phase
  | _ => exact .stutter

end Inversion

end PkgexecLinux.Supervisor

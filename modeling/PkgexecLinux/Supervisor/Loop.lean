import PkgexecLinux.Supervisor.ChildMain
import PkgexecLinux.Supervisor.Classify

/-!
# The supervisor

`execute_backend` as a machine with one system call, one reading of the token or
one decision per step.  The blocks stand in source order and carry the names of
the source's functions and lambdas.

Clock readings are nanoseconds.  Deadlines are computed without overflow; the words
in which the source computes the cancellation deadline are those of `stepWords`.
-/

namespace PkgexecLinux.Supervisor

open Kernel Process

/-- A duration in clock units. -/
def milliseconds (count : Nat) : Nat := count * 1000000

/-- `now >= deadline`, where `none` is `time_point::max()`. -/
def passed (now : Nat) : Option Nat → Bool
  | some deadline => decide (deadline ≤ now)
  | none => false

namespace System

/-! ## Before the fork -/

/-- A check of the token before the child exists. -/
def checkToken (config : Config) (system : System) (diagnostic : String)
    (next : Place) : System :=
  if config.controlled && system.token then
    system.goto (.returned (.cancelledBeforeStart [.cancellation] diagnostic))
  else
    system.goto next

/-- A check that refuses with `kind`, and whose exceptions become
`threwKind`. -/
def checkVerdict (system : System) (verdict : Verdict) (kind threwKind : FailureKind)
    (next : Place) : System :=
  match verdict with
  | .accepted => system.goto next
  | .rejected diagnostic => system.goto (.returned (.failedBeforeStart kind diagnostic))
  | .threw diagnostic => system.goto (.returned (.failedBeforeStart threwKind diagnostic))

/-- A successful `fork` and the closing of the supervisor's unused ends. -/
def forked (config : Config) (system : System) : System :=
  { system with
    place := if config.controlled then .openPidfd else .loopHead
    child := ⟨.setup (childStages config.isolated), false, true, true⟩
    control := ⟨[], 1⟩
    ready := ⟨[], 1⟩
    output := ⟨[], 1⟩
    error := ⟨[], 1⟩ }

def fork (config : Config) (system : System) : Answer → System
  | .refused errno =>
      system.goto (.returned (.failedBeforeStart .processStartFailed
        (errnoMessage config.strerror "fork" (UInt32.ofNat errno))))
  | _ => system.forked config

/-- `pidfd_open`; on failure the start pipe is closed. -/
def openPidfd (system : System) : Answer → System
  | .refused errno =>
      (system.set { system.locals with startOpen := false }).goto (.killChild errno)
  | _ => system.goto .loopHead

/-- `waitpid` for a child that the supervisor gives up; it blocks while the
child runs. -/
def waitChild (config : Config) (system : System) (errno : Nat) :
    Answer → Option System
  | .interrupted => some system
  | answer =>
      if system.child.phase.stopped then
        let mountCleaned := !config.isolated || answer == .done
        let diagnostic :=
          errnoMessage config.strerror "pidfd_open" (UInt32.ofNat errno)
        some ((system.setPhase .reaped).goto
          (.returned (.failedBeforeStart .processStartFailed
            (if mountCleaned then diagnostic
              else diagnostic ++ "; parent isolation scratch cleanup failed"))))
      else
        none

/-! ## Loop head -/

/-- The loop goes on: the child is not reaped or a read end is open. -/
def unfinished (system : System) : Bool :=
  !system.locals.childReaped || system.locals.outputOpen || system.locals.errorOpen ||
    system.locals.controlOpen || system.locals.readyOpen

/-- `observe_child_exit`.  A child that another thread has reaped gives
`ECHILD`, which is no exit. -/
def observeChildExit (system : System) (answer : Answer) : System :=
  if system.locals.childExited then
    system.goto .observeCancellation
  else
    match answer, system.child.phase with
    | .interrupted, _ => system
    | .refused _, _ => system.goto .observeCancellation
    | _, .zombie information =>
        (system.set { system.locals with
          childExited := true, childInformation := information }).goto
          .observeCancellation
    | _, _ => system.goto .observeCancellation

/-- `observe_cancellation`. -/
def observeCancellation (config : Config) (system : System) : System :=
  if config.controlled && !system.locals.cancellationObserved &&
      !system.locals.childExited && system.token then
    system.set { system.locals with
      cancellationObserved := true
      cancellationBeforeStart := !system.locals.startReleased
      startOpen := system.locals.startOpen && system.locals.startReleased }
  else
    system

def startGate (system : System) : System :=
  if system.locals.readySeen && !system.locals.startReleased &&
      !system.locals.cancellationObserved then
    system.goto .gateCancellation
  else
    system.goto .sendCancellationSignal

/-- The second observation, made right before the gate is opened. -/
def gateCancellation (config : Config) (system : System) : System :=
  let observed := system.observeCancellation config
  if observed.locals.cancellationObserved then
    observed.goto .sendCancellationSignal
  else
    observed.goto .writeStart

/-- `write_start`: the descriptor is closed whatever the write does.  Without a
reader the write raises `SIGPIPE`. -/
def writeStart (config : Config) (system : System) (answer : Answer) : System :=
  match answer with
  | .interrupted => system
  | .refused _ =>
      (system.set { system.locals with startOpen := false }).goto .sendCancellationSignal
  | _ =>
      if system.locals.startOpen then
        if system.child.phase.readsStart then
          { system with
            start := system.start ++ [1]
            locals := { system.locals with startOpen := false, startReleased := true }
            place := .sendCancellationSignal }
        else if config.sigpipeIgnored then
          (system.set { system.locals with startOpen := false }).goto
            .sendCancellationSignal
        else
          system.goto .terminated
      else
        system.goto .sendCancellationSignal

/-! ## Signalling -/

/-- A call of `signal_process_group_members`. -/
def beginPass (system : System) (site : PassSite) (reading : Nat) : System :=
  (system.record (.signalPass site reading)).goto
    (.signalling site (.start site.signal))

/-- `send_cancellation_signal` waits for a released start to be confirmed. -/
def signalDue (locals : Locals) : Bool :=
  locals.cancellationObserved && !locals.cancellationSignalAttempted &&
    !(locals.startReleased && !locals.execConfirmed)

def sendCancellationSignal (system : System) : System :=
  if signalDue system.locals then system.beginPass .cancellation system.clock
  else system.goto .readClock

/-- What the caller does with the result of a pass. -/
def finishPass (system : System) (site : PassSite) (result : SignalResult) : System :=
  let locals := { system.locals with
    cleanupFailed := system.locals.cleanupFailed || !result.complete }
  match site with
  | .cancellation =>
      (system.set { locals with
        cancellationSignalAttempted := true
        cancellationSignalDelivered := result.leaderSignaled }).goto .cancellationClock
  | .escalation =>
      (system.set { locals with
        forcedSignalSent := true
        cleanupDeadline := some (locals.now + milliseconds 1000) }).goto .startCleanup
  | .cleanupTerm =>
      (system.set { locals with
        cleanupDeadline := some (locals.now + milliseconds 200) }).goto .continueCleanup
  | .cleanupKill => (system.set locals).goto .beginWait
  | .deadlineKill =>
      (system.set { locals with
        forcedSignalSent := true
        cleanupDeadline := some (locals.now + milliseconds 1000) }).goto .reapControlled
  | .finalKill =>
      (system.set { locals with
        cleanupFailed := true
        cleanupComplete := true }).goto .reapControlled

/-- One system call of a pass. -/
def signalling (system : System) (site : PassSite) (pass : SignalPass)
    (answer : Answer) : System :=
  match pass.step system.table system.leaderState answer with
  | .running pass none => system.goto (.signalling site pass)
  | .running pass (some birth) =>
      (system.record (.delivered pass.signal birth)).goto (.signalling site pass)
  | .returned result => system.finishPass site result

/-- The clock reading at the end of `send_cancellation_signal`. -/
def cancellationClock (config : Config) (system : System) : System :=
  ((system.record (.gracePeriod system.clock)).set { system.locals with
    cancellationDeadline :=
      some (system.clock + milliseconds config.gracePeriodMilliseconds) }).goto .readClock

def readClock (system : System) : System :=
  (system.set { system.locals with now := system.clock }).goto .escalate

/-- Forced escalation after the grace period. -/
def escalate (system : System) : System :=
  if system.locals.cancellationSignalAttempted && !system.locals.forcedSignalSent &&
      passed system.locals.now system.locals.cancellationDeadline &&
      !system.locals.cleanupComplete then
    system.beginPass .escalation system.locals.now
  else
    system.goto .startCleanup

/-! ## Cleanup -/

def startCleanup (config : Config) (system : System) : System :=
  if system.locals.childExited && config.controlled && !system.locals.cleanupStarted then
    if !system.locals.cancellationSignalAttempted then
      (system.set { system.locals with cleanupStarted := true }).beginPass
        .cleanupTerm system.locals.now
    else if !system.locals.forcedSignalSent then
      (system.set { system.locals with
        cleanupStarted := true
        cleanupDeadline := system.locals.cancellationDeadline }).goto .continueCleanup
    else
      (system.set { system.locals with cleanupStarted := true }).goto .continueCleanup
  else
    system.goto .continueCleanup

def continueCleanup (config : Config) (system : System) : System :=
  if system.locals.childExited && config.controlled && system.locals.cleanupStarted &&
      !system.locals.cleanupComplete then
    if system.locals.forcedSignalSent then
      system.beginPass .cleanupKill system.locals.now
    else
      system.goto .beginWait
  else
    system.goto .reapControlled

/-- A call of `wait_process_group_members_gone` with a zero timeout. -/
def beginWait (system : System) : System :=
  (system.record .groupWait).goto (.waiting (.start system.clock 0))

def waiting (system : System) (wait : GroupWait) (answer : Answer) : System :=
  match wait.step system.table system.leaderState system.clock answer with
  | .running wait => system.goto (.waiting wait)
  | .returned true =>
      (system.set { system.locals with cleanupComplete := true }).goto .reapControlled
  | .returned false => system.goto .checkCleanupDeadline

def checkCleanupDeadline (system : System) : System :=
  if passed system.locals.now system.locals.cleanupDeadline then
    if !system.locals.forcedSignalSent then
      system.beginPass .deadlineKill system.locals.now
    else
      system.beginPass .finalKill system.locals.now
  else
    system.goto .reapControlled

/-- `waitpid` for an exited child; `ECHILD` also ends the loop around it. -/
def reap (system : System) : System :=
  match system.child.phase with
  | .zombie _ => system.setPhase .reaped
  | _ => system

def reapControlled (config : Config) (system : System) (answer : Answer) : System :=
  if system.locals.childExited && config.controlled && system.locals.cleanupComplete &&
      !system.locals.childReaped then
    if answer = .interrupted then system
    else
      (system.reap.set { system.locals with childReaped := true }).goto .reapUncontrolled
  else
    system.goto .reapUncontrolled

def reapUncontrolled (config : Config) (system : System) (answer : Answer) : System :=
  if system.locals.childExited && !config.controlled && !system.locals.childReaped then
    if answer = .interrupted then system
    else
      (system.reap.set { system.locals with childReaped := true }).goto
        (.cleaningGroup .probe)
  else
    system.goto .drainOutput

def cleaningGroup (system : System) (phase : CleanupPhase) : System :=
  match cleanupGroupStep system.table system.leaderState phase with
  | .running phase none => system.goto (.cleaningGroup phase)
  | .running phase (some (signal, recipients)) =>
      (system.record (.groupSignal signal recipients)).goto (.cleaningGroup phase)
  | .returned gone =>
      (system.set { system.locals with
        cleanupComplete := gone, cleanupFailed := !gone }).goto .drainOutput

/-! ## Draining the pipes -/

/-- Size of the buffer in `drain_fd`. -/
def drainSize : Nat := 16 * 1024

/-- One read of `drain_fd` on the standard output pipe. -/
def drainOutput (system : System) (answer : Answer) : System :=
  if system.locals.outputOpen then
    match system.output.read drainSize answer with
    | (.data bytes, pipe) =>
        if answer = .exhausted then system.goto .threw
        else { system with
          output := pipe
          locals := { system.locals with
            outputMaterial := system.locals.outputMaterial ++ bytes } }
    | (.endOfFile, _) =>
        (system.set { system.locals with outputOpen := false }).goto .drainError
    | (.again, _) => system.goto .drainError
    | (.interrupted, _) => system
    | (.failed _, _) =>
        (system.set { system.locals with
          captureFailed := true, outputOpen := false }).goto .drainError
  else
    system.goto .drainError

/-- One read of `drain_fd` on the standard error pipe. -/
def drainError (system : System) (answer : Answer) : System :=
  if system.locals.errorOpen then
    match system.error.read drainSize answer with
    | (.data bytes, pipe) =>
        if answer = .exhausted then system.goto .threw
        else { system with
          error := pipe
          locals := { system.locals with
            errorMaterial := system.locals.errorMaterial ++ bytes } }
    | (.endOfFile, _) =>
        (system.set { system.locals with errorOpen := false }).goto .readControl
    | (.again, _) => system.goto .readControl
    | (.interrupted, _) => system
    | (.failed _, _) =>
        (system.set { system.locals with
          captureFailed := true, errorOpen := false }).goto .readControl
  else
    system.goto .readControl

/-- One read of the control pipe. -/
def readControl (system : System) (answer : Answer) : System :=
  if system.locals.controlOpen then
    match system.control.read
        (ChildError.size - system.locals.controlBytes.length) answer with
    | (.data bytes, pipe) =>
        let received := system.locals.controlBytes ++ bytes
        { system with
          control := pipe
          locals := { system.locals with
            controlBytes := received
            controlOpen := decide (received.length ≠ ChildError.size) } }
    | (.endOfFile, _) =>
        (system.set { system.locals with
          controlOpen := false
          execConfirmed := system.locals.execConfirmed ||
            (system.locals.controlBytes.isEmpty && system.locals.startReleased) }).goto
          .readReady
    | (.again, _) => system.goto .readReady
    | (.interrupted, _) => system
    | (.failed _, _) =>
        (system.set { system.locals with controlOpen := false }).goto .readReady
  else
    system.goto .readReady

/-- One read of the ready pipe. -/
def readReady (system : System) (answer : Answer) : System :=
  if system.locals.readyOpen then
    match system.ready.read 1 answer with
    | (.data bytes, pipe) =>
        { system with
          ready := pipe
          locals := { system.locals with
            readySeen := system.locals.readySeen || bytes == [1] } }
    | (.endOfFile, _) =>
        (system.set { system.locals with readyOpen := false }).goto .loopEnd
    | (.again, _) => system.goto .loopEnd
    | (.interrupted, _) => system
    | (.failed _, _) =>
        (system.set { system.locals with readyOpen := false }).goto .loopEnd
  else
    system.goto .loopEnd

/-- `verify_parent_cleanup` and the classification after it. -/
def verifyParentCleanup (config : Config) (system : System) (answer : Answer) : System :=
  system.goto (.returned
    (classify config system.locals (!config.isolated || answer == .done)))

end System

/-- One step of the supervisor. -/
def supervisorStep (config : Config) (answer : Answer) (system : System) :
    Option System :=
  match system.place with
  | .checkSupport =>
      some (if config.supported then system.goto .checkBeforeAdmission
        else system.goto (.returned (.failedBeforeStart .backendUnsupported
          (unsupportedGuaranteesDiagnostic config.guaranteeName
            config.profileGuarantees config.requiredGuarantees))))
  | .checkBeforeAdmission =>
      some (system.checkToken config
        "cancellation was requested before resource admission" .validateShape)
  | .validateShape =>
      some (system.checkVerdict config.shape .requestRejected
        .resourceAdmissionFailed .admitResources)
  | .admitResources =>
      some (if config.isolated then
        system.checkVerdict config.admission .resourceAdmissionFailed
          .resourceAdmissionFailed .checkBeforeInterpreter
      else
        system.goto .checkBeforeInterpreter)
  | .checkBeforeInterpreter =>
      some (system.checkToken config
        "cancellation was requested before interpreter admission" .admitInterpreter)
  | .admitInterpreter =>
      some (system.checkVerdict config.interpreterAdmission .interpreterUnavailable
        .interpreterUnavailable .checkBeforeFork)
  | .checkBeforeFork =>
      some (system.checkToken config
        "cancellation was requested before process creation" .makePipes)
  | .makePipes =>
      some (system.checkVerdict config.pipeCreation .processStartFailed
        .processStartFailed .fork)
  | .fork => some (system.fork config answer)
  | .openPidfd => some (system.openPidfd answer)
  | .killChild errno => some (system.goto (.waitChild errno))
  | .waitChild errno => system.waitChild config errno answer
  | .loopHead =>
      some (if system.unfinished then system.goto .observeChildExit
        else system.goto .verifyParentCleanup)
  | .observeChildExit => some (system.observeChildExit answer)
  | .observeCancellation => some ((system.observeCancellation config).goto .startGate)
  | .startGate => some system.startGate
  | .gateCancellation => some (system.gateCancellation config)
  | .writeStart => some (system.writeStart config answer)
  | .sendCancellationSignal => some system.sendCancellationSignal
  | .signalling site pass => some (system.signalling site pass answer)
  | .cancellationClock => some (system.cancellationClock config)
  | .readClock => some system.readClock
  | .escalate => some system.escalate
  | .startCleanup => some (system.startCleanup config)
  | .continueCleanup => some (system.continueCleanup config)
  | .beginWait => some system.beginWait
  | .waiting wait => some (system.waiting wait answer)
  | .checkCleanupDeadline => some system.checkCleanupDeadline
  | .reapControlled => some (system.reapControlled config answer)
  | .reapUncontrolled => some (system.reapUncontrolled config answer)
  | .cleaningGroup phase => some (system.cleaningGroup phase)
  | .drainOutput => some (system.drainOutput answer)
  | .drainError => some (system.drainError answer)
  | .readControl => some (system.readControl answer)
  | .readReady => some (system.readReady answer)
  | .loopEnd =>
      some (if system.unfinished then system.goto .loopHead
        else system.goto .verifyParentCleanup)
  | .verifyParentCleanup => some (system.verifyParentCleanup config answer)
  | .returned _ | .threw | .terminated => none

/-! ## The whole system -/

/-- What holders of a stream's write end do. -/
inductive StreamMove where
  | write (bytes : List UInt8)
  /-- Another holder appears, by inheritance or by descriptor passing. -/
  | share
  | close
  deriving DecidableEq, Repr

/-- A holder's move; the child's own hold is released only by the child. -/
def streamStep (pipe : Pipe) (held : Bool) : StreamMove → Option Pipe
  | .write bytes => if 0 < pipe.writers then some (pipe.accept bytes) else none
  | .share => if 0 < pipe.writers then some { pipe with writers := pipe.writers + 1 } else none
  | .close => if held.toNat < pipe.writers then some (pipe.release 1) else none

/-- A move of the holders of a stream's write ends. -/
theorem streamStep_spec {pipe after : Pipe} {held : Bool} {move : StreamMove}
    (moved : streamStep pipe held move = some after) :
    (∃ bytes, move = .write bytes ∧ 0 < pipe.writers ∧ after = pipe.accept bytes) ∨
      move = .share ∧ 0 < pipe.writers ∧ after = { pipe with writers := pipe.writers + 1 } ∨
      move = .close ∧ after = pipe.release 1 := by
  cases move with
  | write bytes =>
      simp only [streamStep, Option.ite_none_right_eq_some, Option.some.injEq] at moved
      exact .inl ⟨bytes, rfl, moved.1, moved.2.symm⟩
  | share =>
      simp only [streamStep, Option.ite_none_right_eq_some, Option.some.injEq] at moved
      exact .inr (.inl ⟨rfl, moved.1, moved.2.symm⟩)
  | close =>
      simp only [streamStep, Option.ite_none_right_eq_some, Option.some.injEq] at moved
      exact .inr (.inr ⟨rfl, moved.2.symm⟩)

/-- The parties whose steps are interleaved. -/
inductive Move where
  | supervisor (answer : Answer)
  | child (answer : ChildAnswer)
  /-- The token is requested; it never goes back. -/
  | request
  /-- A signal of a third party, or of the supervisor, takes effect. -/
  | kill (signal : UInt32)
  /-- Another thread waits for the child, or `SIGCHLD` is ignored. -/
  | reapElsewhere
  | tick (duration : Nat)
  | output (move : StreamMove)
  | error (move : StreamMove)
  | process (move : ProcessMove)
  deriving DecidableEq, Repr

/-- Steps of the supervisor whose calls do their ordinary work. -/
def supervised (count : Nat) : List Move := List.replicate count (.supervisor .done)

/-- Steps of the child whose calls succeed. -/
def advanced (count : Nat) : List Move := List.replicate count (.child .succeed)

/-- One step of the system. -/
def step (config : Config) (move : Move) (system : System) : Option System :=
  match move with
  | .supervisor answer => supervisorStep config answer system
  | .child answer => childStep config answer system
  | .request => some { system with token := true }
  | .kill signal =>
      if system.child.phase.stopped then none
      else some (system.endChild (.signaled signal))
  | .reapElsewhere =>
      match system.child.phase with
      | .zombie _ => some (system.setPhase .reaped)
      | _ => none
  | .tick duration => some { system with clock := system.clock + duration }
  | .output move =>
      (streamStep system.output system.child.outputHeld move).map fun pipe =>
        { system with output := pipe }
  | .error move =>
      (streamStep system.error system.child.errorHeld move).map fun pipe =>
        { system with error := pipe }
  | .process move =>
      (system.table.move system.leaderState move).map fun table =>
        { system with table, log := .process move :: system.log }

/-- A step of the system, by the party that makes it. -/
inductive Stepped (config : Config) (system : System) : Move → System → Prop where
  | supervisor {answer : Answer} {next : System} :
      supervisorStep config answer system = some next →
      Stepped config system (.supervisor answer) next
  | child {answer : ChildAnswer} {next : System} :
      childStep config answer system = some next →
      Stepped config system (.child answer) next
  | request : Stepped config system .request { system with token := true }
  | kill (signal : UInt32) : system.child.phase.stopped = false →
      Stepped config system (.kill signal) (system.endChild (.signaled signal))
  | reapElsewhere (information : ExitInformation) :
      system.child.phase = .zombie information →
      Stepped config system .reapElsewhere (system.setPhase .reaped)
  | tick (duration : Nat) :
      Stepped config system (.tick duration) { system with clock := system.clock + duration }
  | output {move : StreamMove} {pipe : Pipe} :
      streamStep system.output system.child.outputHeld move = some pipe →
      Stepped config system (.output move) { system with output := pipe }
  | error {move : StreamMove} {pipe : Pipe} :
      streamStep system.error system.child.errorHeld move = some pipe →
      Stepped config system (.error move) { system with error := pipe }
  | process {move : ProcessMove} {table : ProcessTable} :
      system.table.move system.leaderState move = some table →
      Stepped config system (.process move)
        { system with table, log := .process move :: system.log }

theorem stepped_of_step {config : Config} {move : Move} {system next : System}
    (taken : step config move system = some next) : Stepped config system move next := by
  cases move with
  | supervisor answer => exact .supervisor taken
  | child answer => exact .child taken
  | request =>
      cases taken
      exact .request
  | tick duration =>
      cases taken
      exact .tick duration
  | kill signal =>
      simp only [step] at taken
      split at taken <;> cases taken
      next running => exact .kill signal (eq_false_of_ne_true running)
  | reapElsewhere =>
      simp only [step] at taken
      split at taken <;> cases taken
      next information phase => exact .reapElsewhere information phase
  | output move =>
      simp only [step, Option.map_eq_some_iff] at taken
      rcases taken with ⟨_, moved, rfl⟩
      exact .output moved
  | error move =>
      simp only [step, Option.map_eq_some_iff] at taken
      rcases taken with ⟨_, moved, rfl⟩
      exact .error moved
  | process move =>
      simp only [step, Option.map_eq_some_iff] at taken
      rcases taken with ⟨_, moved, rfl⟩
      exact .process moved

/-- Only the supervisor moves on in its source. -/
theorem place_step {config : Config} {move : Move} {system next : System}
    (outside : ∀ answer, move ≠ .supervisor answer)
    (taken : step config move system = some next) : next.place = system.place := by
  cases stepped_of_step taken with
  | supervisor => exact absurd rfl (outside _)
  | child taken =>
      rcases childStep_frame taken with ⟨_, _, _, _, _, _, rfl⟩
      rfl
  | _ => rfl

end PkgexecLinux.Supervisor

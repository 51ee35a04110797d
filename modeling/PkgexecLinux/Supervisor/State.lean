import PkgexecLinux.Process.Group
import PkgexecLinux.Supervisor.Outcome

/-!
# State of a supervised execution

The parties of one `execute_backend` call: the supervisor with its local
variables and its place in the source, the forked child, the five pipes between
them, the cancellation token, the clock, and the other processes of the host.

Pipe descriptors are kept apart from each other by name.  This is the situation
of a supervisor whose own descriptors 0 to 2 are open, so that no pipe end is
moved by the child's stream setup.
-/

namespace PkgexecLinux.Supervisor

open Kernel Process

/-- Answer of a check that may also throw. -/
inductive Verdict where
  | accepted
  | rejected (diagnostic : String)
  | threw (diagnostic : String)
  deriving DecidableEq, Repr

/-- What is fixed for one call: the request, the answers of the admission
checks, and the host. -/
structure Config where
  /-- A cancellation token was passed: the execution is controlled. -/
  controlled : Bool
  isolated : Bool
  gracePeriodMilliseconds : Nat
  captureOutput : Bool
  captureError : Bool
  requiredGuarantees : List Guarantee
  profileGuarantees : List Guarantee
  guaranteeName : Guarantee → String
  strerror : UInt32 → String
  interpreter : String
  /-- `profile.supports(request)`. -/
  supported : Bool
  shape : Verdict
  admission : Verdict
  interpreterAdmission : Verdict
  pipeCreation : Verdict
  /-- Disposition of `SIGPIPE` in the embedding process. -/
  sigpipeIgnored : Bool
  /-- The other processes of the host; its `leader` is the child's id. -/
  table : ProcessTable
  valid : table.Valid
  deserted : table.Deserted

theorem valid_lone : (ProcessTable.mk 100 [] 0).Valid := ProcessTable.valid_nil 100 0

/-- A request without guarantees on a host without other processes, whose
admission succeeds. -/
def Config.plain (controlled : Bool) (gracePeriodMilliseconds : Nat) : Config where
  controlled
  isolated := false
  gracePeriodMilliseconds
  captureOutput := true
  captureError := true
  requiredGuarantees := []
  profileGuarantees := []
  guaranteeName := fun _ => ""
  strerror := fun _ => ""
  interpreter := "/bin/sh"
  supported := true
  shape := .accepted
  admission := .accepted
  interpreterAdmission := .accepted
  pipeCreation := .accepted
  sigpipeIgnored := false
  table := ⟨100, [], 0⟩
  valid := valid_lone
  deserted := by simp [ProcessTable.Deserted]

/-! ## The child -/

/-- Place of the child in `child_main`. -/
inductive ChildPhase where
  | unborn
  /-- Setup steps still to be made; with none left, the ready byte is due. -/
  | setup (pending : List ChildStage)
  /-- `report_child_error` has these bytes left to write before `_exit`. -/
  | reporting (record : List UInt8) (status : UInt32)
  | awaitingStart
  | closingDescriptors
  | executing
  /-- The `execveat` has committed and the program runs. -/
  | program
  | zombie (information : ExitInformation)
  | reaped
  deriving DecidableEq, Repr

structure Child where
  phase : ChildPhase
  /-- The `execveat` of the interpreter descriptor has committed. -/
  committed : Bool
  /-- The child still holds the write end of a stream pipe on its own behalf;
  after the commit the ends belong to the program. -/
  outputHeld : Bool
  errorHeld : Bool
  deriving DecidableEq, Repr

namespace ChildPhase

/-- Not created yet, or no longer running. -/
@[grind] def stopped : ChildPhase → Bool
  | .unborn | .zombie _ | .reaped => true
  | .setup _ | .reporting _ _ | .awaitingStart | .closingDescriptors
  | .executing | .program => false

/-- Still holds the read end of the start pipe. -/
@[grind] def readsStart : ChildPhase → Bool
  | .setup _ | .reporting _ _ | .awaitingStart => true
  | .unborn | .closingDescriptors | .executing | .program | .zombie _ | .reaped => false

/-- Has exited. -/
@[grind] def dead : ChildPhase → Bool
  | .zombie _ | .reaped => true
  | .unborn | .setup _ | .reporting _ _ | .awaitingStart
  | .closingDescriptors | .executing | .program => false

/-- The ready byte has not been written. -/
@[grind] def unready : ChildPhase → Bool
  | .unborn | .setup _ => true
  | .reporting _ _ | .awaitingStart | .closingDescriptors | .executing
  | .program | .zombie _ | .reaped => false

/-- Between the start byte and the commit of `execveat`. -/
@[grind] def passedStart : ChildPhase → Bool
  | .closingDescriptors | .executing => true
  | .unborn | .setup _ | .reporting _ _ | .awaitingStart
  | .program | .zombie _ | .reaped => false

/-- Has neither failed nor committed its `execveat`. -/
@[grind] def silent : ChildPhase → Bool
  | .unborn | .setup _ | .awaitingStart | .closingDescriptors | .executing => true
  | .reporting _ _ | .program | .zombie _ | .reaped => false

/-- Runs `child_main`. -/
@[grind] def preCommit : ChildPhase → Bool
  | .setup _ | .reporting _ _ | .awaitingStart | .closingDescriptors | .executing => true
  | .unborn | .program | .zombie _ | .reaped => false

def leaderState : ChildPhase → LeaderState
  | .program => .running
  | .reaped => .gone
  | _ => .retained

end ChildPhase

/-- The setup steps of `child_main`, in order. -/
def childStages (isolated : Bool) : List ChildStage :=
  [.processGroup, .standardStreams] ++
    (if isolated then [.mountIsolation, .networkIsolation] else []) ++
    [.workingDirectory] ++
    (if isolated then [.capabilityDrop] else []) ++
    [.resourceLimits, .containment]

/-! ## The supervisor -/

/-- The local variables of `execute_backend` that live across the loop.  An open
`unique_fd` is `true`, a deadline of `time_point::max()` is `none`, and
`control_size` is the length of `controlBytes`. -/
structure Locals where
  outputOpen : Bool
  errorOpen : Bool
  controlOpen : Bool
  readyOpen : Bool
  startOpen : Bool
  outputMaterial : List UInt8
  errorMaterial : List UInt8
  controlBytes : List UInt8
  captureFailed : Bool
  readySeen : Bool
  startReleased : Bool
  execConfirmed : Bool
  childExited : Bool
  childReaped : Bool
  childInformation : ExitInformation
  cancellationObserved : Bool
  cancellationBeforeStart : Bool
  cancellationSignalAttempted : Bool
  cancellationSignalDelivered : Bool
  forcedSignalSent : Bool
  cancellationDeadline : Option Nat
  cleanupStarted : Bool
  cleanupComplete : Bool
  cleanupFailed : Bool
  cleanupDeadline : Option Nat
  now : Nat
  deriving DecidableEq, Repr

def Locals.initial : Locals where
  outputOpen := true
  errorOpen := true
  controlOpen := true
  readyOpen := true
  startOpen := true
  outputMaterial := []
  errorMaterial := []
  controlBytes := []
  captureFailed := false
  readySeen := false
  startReleased := false
  execConfirmed := false
  childExited := false
  childReaped := false
  childInformation := .unset
  cancellationObserved := false
  cancellationBeforeStart := false
  cancellationSignalAttempted := false
  cancellationSignalDelivered := false
  forcedSignalSent := false
  cancellationDeadline := none
  cleanupStarted := false
  cleanupComplete := false
  cleanupFailed := false
  cleanupDeadline := none
  now := 0

/-- The calls of `signal_process_group_members` in `execute_backend`. -/
inductive PassSite where
  /-- In `send_cancellation_signal`. -/
  | cancellation
  /-- The grace period is over. -/
  | escalation
  /-- First cleanup of an execution that was not cancelled. -/
  | cleanupTerm
  /-- Repetition before a scan. -/
  | cleanupKill
  /-- The cleanup deadline has passed for the first time. -/
  | deadlineKill
  /-- The cleanup deadline has passed after a forced signal. -/
  | finalKill
  deriving DecidableEq, Repr

def PassSite.signal : PassSite → Signal
  | .cancellation | .cleanupTerm => .sigterm
  | .escalation | .cleanupKill | .deadlineKill | .finalKill => .sigkill

/-- Place of the supervisor in `execute_backend`. -/
inductive Place where
  | checkSupport
  | checkBeforeAdmission
  | validateShape
  | admitResources
  | checkBeforeInterpreter
  | admitInterpreter
  | checkBeforeFork
  | makePipes
  | fork
  | openPidfd
  /-- `pidfd_open` failed: the child is killed and waited for. -/
  | killChild (errno : Nat)
  | waitChild (errno : Nat)
  | loopHead
  | observeChildExit
  | observeCancellation
  | startGate
  | gateCancellation
  | writeStart
  | sendCancellationSignal
  | signalling (site : PassSite) (pass : SignalPass)
  | cancellationClock
  | readClock
  | escalate
  | startCleanup
  | continueCleanup
  | beginWait
  | waiting (wait : GroupWait)
  | checkCleanupDeadline
  | reapControlled
  | reapUncontrolled
  | cleaningGroup (phase : CleanupPhase)
  | drainOutput
  | drainError
  | readControl
  | readReady
  | loopEnd
  | verifyParentCleanup
  | returned (outcome : Outcome)
  /-- An exception left the function. -/
  | threw
  /-- `SIGPIPE` ended the embedding process. -/
  | terminated
  deriving DecidableEq, Repr

/-- History of a run, as far as properties speak about it. -/
inductive Event where
  /-- A call of `signal_process_group_members`, with the supervisor's clock
  reading. -/
  | signalPass (site : PassSite) (reading : Nat)
  /-- The clock reading taken by `send_cancellation_signal` after its pass. -/
  | gracePeriod (reading : Nat)
  /-- A call of `wait_process_group_members_gone`. -/
  | groupWait
  | delivered (signal : Signal) (birth : Nat)
  | groupSignal (signal : Signal) (recipients : List Nat)
  | process (move : ProcessMove)
  deriving DecidableEq, Repr

/-- A call by which the supervisor scans or signals by the group number. -/
def Event.usesGroup : Event → Bool
  | .signalPass .. | .groupWait => true
  | _ => false

structure System where
  place : Place
  locals : Locals
  child : Child
  control : Pipe
  ready : Pipe
  output : Pipe
  error : Pipe
  /-- Bytes in the start pipe. -/
  start : List UInt8
  /-- The cancellation token has been requested. -/
  token : Bool
  clock : Nat
  table : ProcessTable
  /-- Newest event first. -/
  log : List Event

/-- The state in which `execute_backend` is entered. -/
def Config.initial (config : Config) (token : Bool) (clock : Nat) : System where
  place := .checkSupport
  locals := Locals.initial
  child := ⟨.unborn, false, false, false⟩
  control := ⟨[], 0⟩
  ready := ⟨[], 0⟩
  output := ⟨[], 0⟩
  error := ⟨[], 0⟩
  start := []
  token := token
  clock := clock
  table := config.table
  log := []

namespace System

/-- The leader, as the rest of the kernel sees it. -/
def leaderState (system : System) : LeaderState := system.child.phase.leaderState

def outcome? (system : System) : Option Outcome :=
  match system.place with
  | .returned outcome => some outcome
  | _ => none

def goto (system : System) (place : Place) : System := { system with place }

def set (system : System) (locals : Locals) : System := { system with locals }

def record (system : System) (event : Event) : System :=
  { system with log := event :: system.log }

@[simp] theorem goto_place (system : System) (place : Place) :
    (system.goto place).place = place := rfl

@[simp] theorem set_locals (system : System) (locals : Locals) :
    (system.set locals).locals = locals := rfl

theorem place_of_outcome {system : System} {outcome : Outcome}
    (returned : system.outcome? = some outcome) : system.place = .returned outcome := by
  unfold outcome? at returned
  split at returned
  next place =>
    cases returned
    exact place
  next => cases returned

end System

end PkgexecLinux.Supervisor

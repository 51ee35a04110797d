import PkgexecLinux.Process.Duration
import PkgexecLinux.Supervisor.Drain
import Mathlib.Data.Prod.Lex

/-!
# One turn of the supervisor loop

Within one turn the supervisor only moves forward through its source, except for
the retries of its reads, its scans of the process directory and its waits.  Their
length is bounded by the bytes still in a pipe, by the largest process id and by
counted attempts, so that a turn ends once nobody writes any more.
-/

namespace PkgexecLinux.Supervisor

open Kernel Process

/-- Places of the loop that may still follow in the same turn, the present one
included.  Outside the loop there are none. -/
def Place.ahead : Place → Nat
  | .loopHead => 28
  | .observeChildExit => 27
  | .observeCancellation => 26
  | .startGate => 25
  | .gateCancellation => 24
  | .writeStart => 23
  | .sendCancellationSignal => 22
  | .signalling .cancellation _ => 21
  | .cancellationClock => 20
  | .readClock => 19
  | .escalate => 18
  | .signalling .escalation _ => 17
  | .startCleanup => 16
  | .signalling .cleanupTerm _ => 15
  | .continueCleanup => 14
  | .signalling .cleanupKill _ => 13
  | .beginWait => 12
  | .waiting _ => 11
  | .checkCleanupDeadline => 10
  | .signalling .deadlineKill _ | .signalling .finalKill _ => 9
  | .reapControlled => 8
  | .reapUncontrolled => 7
  | .cleaningGroup _ => 6
  | .drainOutput => 5
  | .drainError => 4
  | .readControl => 3
  | .readReady => 2
  | .loopEnd => 1
  | _ => 0

/-- The supervisor is in its loop. -/
def Place.inLoop (place : Place) : Bool := decide (0 < place.ahead)

namespace System

/-- Calls that the present place may still make. -/
def effort (limit : Nat) (system : System) : Nat :=
  match system.place with
  | .signalling _ pass => pass.effort limit
  | .waiting wait => wait.effort limit
  | .cleaningGroup phase => phase.effort
  | .drainOutput => system.output.buffer.length
  | .drainError => system.error.buffer.length
  | .readControl => system.control.buffer.length
  | .readReady => system.ready.buffer.length
  | _ => 0

/-- What is left of the turn. -/
def turn (limit : Nat) (system : System) : Nat ×ₗ Nat :=
  toLex (system.place.ahead, system.effort limit)

/-- Nobody is left to write: the child has ended, and every write end outside the
supervisor is closed. -/
structure Quiet (system : System) : Prop where
  ended : system.child.phase.dead = true
  control : system.control.writers = 0
  ready : system.ready.writers = 0
  output : system.output.writers = 0
  error : system.error.writers = 0

/-- A wait in progress was begun with a timeout of zero. -/
def Prompt (system : System) : Prop :=
  ∀ wait, system.place = .waiting wait → wait.deadline ≤ system.clock

/-- No process id exceeds the limit. -/
def Bounded (limit : Nat) (system : System) : Prop :=
  ∀ pid ∈ system.table.listed system.leaderState, pid ≤ limit

end System

section Descent

variable {config : Config} {answer : Answer} {limit : Nat} {system next : System}

theorem turn_lt_of_ahead (forward : next.place.ahead < system.place.ahead) :
    next.turn limit < system.turn limit :=
  Prod.Lex.toLex_lt_toLex.mpr (.inl forward)

theorem turn_lt_of_effort (same : next.place.ahead = system.place.ahead)
    (less : next.effort limit < system.effort limit) : next.turn limit < system.turn limit :=
  Prod.Lex.toLex_lt_toLex.mpr (.inr ⟨same, less⟩)

/-- The step makes the turn shorter, or it is an interrupted call. -/
def Shortens (limit : Nat) (system : System) (answer : Answer) (next : System) : Prop :=
  (answer = .interrupted ∧ next = system) ∨ next.turn limit < system.turn limit

/-- A read of a pipe without writers never asks for a retry. -/
theorem read_closed {pipe : Pipe} (closed : pipe.writers = 0) (capacity : Nat)
    (answer : Answer) :
    (answer = .interrupted ∧ pipe.read capacity answer = (.interrupted, pipe)) ∨
      (∃ errno, pipe.read capacity answer = (.failed errno, pipe)) ∨
      pipe.read capacity answer = (.endOfFile, pipe) ∨
      ∃ bytes rest, rest.length < pipe.buffer.length ∧
        pipe.read capacity answer = (.data bytes, { pipe with buffer := rest }) := by
  have spec := pipe.read_spec capacity answer
  generalize pipe.read capacity answer = result at spec ⊢
  rcases result with ⟨result, after⟩
  cases spec with
  | interrupted interrupted => exact .inl ⟨interrupted, rfl⟩
  | failed errno => exact .inr (.inl ⟨errno, rfl⟩)
  | endOfFile => exact .inr (.inr (.inl rfl))
  | again empty opened => exact absurd closed opened
  | data bytes rest nonempty _ cut =>
      refine .inr (.inr (.inr ⟨bytes, rest, ?_, rfl⟩))
      have positive := List.length_pos_iff.mpr nonempty
      rw [cut, List.length_append]
      omega

theorem shortens_drainFd {stream : CaptureStream} (here : system.place = stream.place)
    (closed : (system.pipe stream).writers = 0) :
    Shortens limit system answer (system.drainFd answer stream) := by
  have onward : stream.next.ahead < system.place.ahead := by
    rw [here]
    cases stream <;> decide
  rw [System.drainFd]
  split
  next =>
    rcases read_closed closed System.drainSize answer with
      ⟨interrupted, result⟩ | ⟨errno, result⟩ | result | ⟨bytes, rest, shorter, result⟩
    · rw [result]
      exact .inl ⟨interrupted, rfl⟩
    · rw [result]
      exact .inr (turn_lt_of_ahead onward)
    · rw [result]
      exact .inr (turn_lt_of_ahead onward)
    · rw [result]
      dsimp only
      split
      next =>
        refine .inr (turn_lt_of_ahead ?_)
        rw [here, System.goto_place]
        cases stream <;> decide
      next =>
        right
        cases stream with
        | output =>
            refine turn_lt_of_effort rfl ?_
            have place : system.place = .drainOutput := here
            simpa [System.effort, System.setPipe, System.set, System.pipe, place] using shorter
        | error =>
            refine turn_lt_of_effort rfl ?_
            have place : system.place = .drainError := here
            simpa [System.effort, System.setPipe, System.set, System.pipe, place] using shorter
  next => exact .inr (turn_lt_of_ahead onward)

theorem shortens_readControl (here : system.place = .readControl)
    (closed : system.control.writers = 0) :
    Shortens limit system answer (system.readControl answer) := by
  have onward : Place.readReady.ahead < system.place.ahead := by
    rw [here]
    decide
  rw [System.readControl]
  split
  next =>
    rcases read_closed closed (ChildError.size - system.locals.controlBytes.length) answer with
      ⟨interrupted, result⟩ | ⟨errno, result⟩ | result | ⟨bytes, rest, shorter, result⟩
    · rw [result]
      exact .inl ⟨interrupted, rfl⟩
    · rw [result]
      exact .inr (turn_lt_of_ahead onward)
    · rw [result]
      exact .inr (turn_lt_of_ahead onward)
    · rw [result]
      refine .inr (turn_lt_of_effort rfl ?_)
      simpa [System.effort, here] using shorter
  next => exact .inr (turn_lt_of_ahead onward)

theorem shortens_readReady (here : system.place = .readReady)
    (closed : system.ready.writers = 0) :
    Shortens limit system answer (system.readReady answer) := by
  have onward : Place.loopEnd.ahead < system.place.ahead := by
    rw [here]
    decide
  rw [System.readReady]
  split
  next =>
    rcases read_closed closed 1 answer with
      ⟨interrupted, result⟩ | ⟨errno, result⟩ | result | ⟨bytes, rest, shorter, result⟩
    · rw [result]
      exact .inl ⟨interrupted, rfl⟩
    · rw [result]
      exact .inr (turn_lt_of_ahead onward)
    · rw [result]
      exact .inr (turn_lt_of_ahead onward)
    · rw [result]
      refine .inr (turn_lt_of_effort rfl ?_)
      simpa [System.effort, here] using shorter
  next => exact .inr (turn_lt_of_ahead onward)

theorem shortens_signalling {site : PassSite} {pass : SignalPass}
    (here : system.place = .signalling site pass) (bounded : system.Bounded limit) :
    (system.signalling site pass answer).turn limit < system.turn limit := by
  have same (later : SignalPass) :
      (Place.signalling site later).ahead = system.place.ahead := by
    rw [here]
    cases site <;> rfl
  rw [System.signalling]
  split
  next later stepped =>
    apply turn_lt_of_effort (same later)
    simpa [System.effort, here, System.goto] using SignalPass.effort_step bounded stepped
  next later birth stepped =>
    apply turn_lt_of_effort (same later)
    simpa [System.effort, here, System.goto] using SignalPass.effort_step bounded stepped
  next result =>
    apply turn_lt_of_ahead
    rw [here]
    cases site <;> simp [System.finishPass, Place.ahead]

theorem shortens_waiting {wait : GroupWait} (here : system.place = .waiting wait)
    (bounded : system.Bounded limit) (prompt : system.Prompt) :
    (system.waiting wait answer).turn limit < system.turn limit := by
  rw [System.waiting]
  split
  next later stepped =>
    apply turn_lt_of_effort (by rw [here]; rfl)
    have less := GroupWait.effort_step bounded (prompt wait here) stepped
    simpa [System.effort, here, System.goto] using less
  next => exact turn_lt_of_ahead (by simp [here, Place.ahead])
  next => exact turn_lt_of_ahead (by simp [here, Place.ahead])

theorem shortens_cleaningGroup {phase : CleanupPhase}
    (here : system.place = .cleaningGroup phase) :
    (system.cleaningGroup phase).turn limit < system.turn limit := by
  rw [System.cleaningGroup]
  split
  next later stepped =>
    apply turn_lt_of_effort (by rw [here]; rfl)
    simpa [System.effort, here, System.goto] using CleanupPhase.effort_step stepped
  next later signal recipients stepped =>
    apply turn_lt_of_effort (by rw [here]; rfl)
    simpa [System.effort, here, System.goto] using CleanupPhase.effort_step stepped
  next => exact turn_lt_of_ahead (by simp [here, Place.ahead])

/-- Every step of a quiet loop shortens the turn, unless its call is interrupted or it begins
the next turn. -/
theorem shortens_supervisorStep (inside : system.place.inLoop = true) (quiet : system.Quiet)
    (bounded : system.Bounded limit) (prompt : system.Prompt)
    (taken : supervisorStep config answer system = some next) :
    (system.place = .loopEnd ∧ next.place = .loopHead) ∨
      Shortens limit system answer next := by
  rcases system with ⟨place, locals, child, control, ready, output, error, start, token,
    clock, table, log⟩
  cases place with
  | loopEnd =>
      cases taken
      split
      · exact .inl ⟨rfl, rfl⟩
      · exact .inr (.inr (turn_lt_of_ahead (by simp [Place.ahead])))
  | signalling site pass =>
      cases taken
      exact .inr (.inr (shortens_signalling rfl bounded))
  | waiting wait =>
      cases taken
      exact .inr (.inr (shortens_waiting rfl bounded prompt))
  | cleaningGroup phase =>
      cases taken
      exact .inr (.inr (shortens_cleaningGroup rfl))
  | drainOutput =>
      cases taken
      exact .inr (shortens_drainFd (show _ = CaptureStream.output.place from rfl) quiet.output)
  | drainError =>
      cases taken
      exact .inr (shortens_drainFd (show _ = CaptureStream.error.place from rfl) quiet.error)
  | readControl =>
      cases taken
      exact .inr (shortens_readControl rfl quiet.control)
  | readReady =>
      cases taken
      exact .inr (shortens_readReady rfl quiet.ready)
  | loopHead | observeCancellation | startGate | gateCancellation | sendCancellationSignal
  | cancellationClock | readClock | escalate | startCleanup | continueCleanup | beginWait
  | checkCleanupDeadline =>
      cases taken
      refine .inr (.inr (turn_lt_of_ahead ?_))
      simp only [System.startGate, System.gateCancellation, System.sendCancellationSignal,
        System.cancellationClock, System.readClock, System.escalate, System.startCleanup,
        System.continueCleanup, System.beginWait, System.checkCleanupDeadline]
      repeat' split
      all_goals simp [Place.ahead, System.beginPass]
  | observeChildExit | writeStart | reapControlled | reapUncontrolled =>
      cases taken
      simp only [System.observeChildExit, System.writeStart, System.reapControlled,
        System.reapUncontrolled]
      repeat' split
      all_goals first
        | exact .inr (.inl ⟨rfl, rfl⟩)
        | exact .inr (.inl ⟨by assumption, rfl⟩)
        | exact .inr (.inr (turn_lt_of_ahead (by simp [Place.ahead])))
  | _ => cases inside

end Descent

section Environment

variable {config : Config} {system next : System}

/-! ## The quiet environment -/

/-- What the others can still do: request the token, let time pass, change the process
table, and wait for the child. -/
theorem quiet_environment {move : Move} (quiet : system.Quiet)
    (outside : ∀ answer, move ≠ .supervisor answer)
    (taken : step config move system = some next) :
    ∃ token clock table log phase, system.clock ≤ clock ∧ phase.dead = true ∧
      next = { system with token, clock, table, log, child := { system.child with phase } } := by
  have ended := quiet.ended
  cases stepped_of_step taken with
  | supervisor => exact absurd rfl (outside _)
  | child taken =>
      simp only [childStep] at taken
      cases phase : system.child.phase <;> simp_all [ChildPhase.dead]
  | request => exact ⟨true, _, _, _, _, le_refl _, ended, rfl⟩
  | tick duration => exact ⟨_, _, _, _, _, Nat.le_add_right _ duration, ended, rfl⟩
  | kill signal running =>
      cases phase : system.child.phase <;> simp_all [ChildPhase.dead, ChildPhase.stopped]
  | reapElsewhere => exact ⟨_, _, _, _, .reaped, le_refl _, rfl, rfl⟩
  | @output move _ moved => cases move <;> simp [streamStep, quiet.output] at moved
  | @error move _ moved => cases move <;> simp [streamStep, quiet.error] at moved
  | @process _ table _ => exact ⟨_, _, table, _, _, le_refl _, ended, rfl⟩

/-- Which read ends are open. -/
def Locals.ends (locals : Locals) : Bool × Bool × Bool × Bool :=
  (locals.outputOpen, locals.errorOpen, locals.controlOpen, locals.readyOpen)

/-- What a step of the loop leaves alone: the environment stays quiet, only a child whose
exit has been observed is waited for, and no read end is opened. -/
structure LoopFrame (system next : System) : Prop where
  quiet : system.Quiet → next.Quiet
  clock : next.clock = system.clock
  phase : next.child.phase = system.child.phase ∨ system.locals.childExited = true
  ends : next.locals.ends ≤ system.locals.ends

/-- The step changes the supervisor's own state, and opens nothing. -/
theorem LoopFrame.own {place : Place} {locals : Locals} {start : List UInt8}
    {log : List Event} (ends : locals.ends ≤ system.locals.ends) :
    LoopFrame system { system with place, locals, start, log } where
  quiet := fun quiet => ⟨quiet.ended, quiet.control, quiet.ready, quiet.output, quiet.error⟩
  clock := rfl
  phase := .inl rfl
  ends := ends

theorem frame_drainFd (answer : Answer) (stream : CaptureStream) :
    LoopFrame system (system.drainFd answer stream) := by
  have spec := drainFd_spec system answer stream
  generalize system.drainFd answer stream = after at spec ⊢
  cases spec with
  | retry | pass | throw => exact .own (le_refl _)
  | ended | failed =>
      refine .own ?_
      cases stream <;> simp [Locals.ends, Locals.close]
  | take bytes rest cut =>
      refine ⟨?_, ?_, ?_, ?_⟩
      · intro quiet
        cases stream <;>
          exact ⟨quiet.ended, quiet.control, quiet.ready, quiet.output, quiet.error⟩
      · cases stream <;> rfl
      · left
        cases stream <;> rfl
      · cases stream <;> exact le_refl _

/-- A read of the control or of the ready pipe. -/
theorem LoopFrame.read {control ready : Pipe} {locals : Locals}
    (controlKept : control.writers = system.control.writers)
    (readyKept : ready.writers = system.ready.writers)
    (ends : locals.ends ≤ system.locals.ends) :
    LoopFrame system { system with control, ready, locals } where
  quiet := fun quiet => ⟨quiet.ended, controlKept.trans quiet.control,
    readyKept.trans quiet.ready, quiet.output, quiet.error⟩
  clock := rfl
  phase := .inl rfl
  ends := ends

theorem frame_readControl (answer : Answer) :
    LoopFrame system (system.readControl answer) := by
  have spec := system.control.read_spec
    (ChildError.size - system.locals.controlBytes.length) answer
  rw [System.readControl]
  split
  next opened =>
    generalize system.control.read _ answer = result at spec ⊢
    rcases result with ⟨result, pipe⟩
    cases spec with
    | data bytes rest =>
        refine .read rfl rfl ?_
        simp [Locals.ends, opened]
    | endOfFile | failed =>
        refine .own ?_
        simp [Locals.ends]
    | again | interrupted => exact .own (le_refl _)
  next => exact .own (le_refl _)

theorem frame_readReady (answer : Answer) : LoopFrame system (system.readReady answer) := by
  have spec := system.ready.read_spec 1 answer
  rw [System.readReady]
  split
  next =>
    generalize system.ready.read _ answer = result at spec ⊢
    rcases result with ⟨result, pipe⟩
    cases spec with
    | data bytes rest => exact .read rfl rfl (le_refl _)
    | endOfFile | failed =>
        refine .own ?_
        simp [Locals.ends]
    | again | interrupted => exact .own (le_refl _)
  next => exact .own (le_refl _)

theorem frame_reap (exited : system.locals.childExited = true) {locals : Locals}
    (ends : locals.ends ≤ system.locals.ends) (place : Place) :
    LoopFrame system ((system.reap.set locals).goto place) := by
  rw [System.reap]
  split
  · exact ⟨fun quiet => ⟨rfl, quiet.control, quiet.ready, quiet.output, quiet.error⟩, rfl,
      .inr exited, ends⟩
  · exact .own ends

theorem frame_supervisorStep {answer : Answer} (inside : system.place.inLoop = true)
    (taken : supervisorStep config answer system = some next) : LoopFrame system next := by
  rcases system with ⟨place, locals, child, control, ready, output, error, start, token,
    clock, table, log⟩
  cases place with
  | drainOutput =>
      cases taken
      exact frame_drainFd answer .output
  | drainError =>
      cases taken
      exact frame_drainFd answer .error
  | readControl =>
      cases taken
      exact frame_readControl answer
  | readReady =>
      cases taken
      exact frame_readReady answer
  | reapControlled | reapUncontrolled =>
      cases taken
      simp only [System.reapControlled, System.reapUncontrolled]
      split
      next due =>
        simp only [Bool.and_eq_true, and_assoc] at due
        split
        · exact .own (le_refl _)
        · apply frame_reap
          · exact due.1
          · exact le_refl locals.ends
      next => exact .own (le_refl _)
  | checkSupport | checkBeforeAdmission | validateShape | admitResources
  | checkBeforeInterpreter | admitInterpreter | checkBeforeFork | makePipes | fork
  | openPidfd | killChild | waitChild | verifyParentCleanup | returned | threw
  | terminated => cases inside
  | observeCancellation | gateCancellation =>
      cases taken
      simp only [System.observeCancellation, System.gateCancellation]
      repeat' split
      all_goals exact .own (le_refl _)
  | loopHead | loopEnd =>
      cases taken
      split <;> exact .own (le_refl _)
  | signalling site pass =>
      cases taken
      simp only [System.signalling]
      split
      · exact .own (le_refl _)
      · exact .own (le_refl _)
      · cases site <;> exact .own (le_refl _)
  | _ =>
      cases taken
      simp only [System.observeChildExit, System.startGate, System.writeStart,
        System.sendCancellationSignal, System.cancellationClock, System.readClock,
        System.escalate, System.startCleanup, System.continueCleanup, System.beginWait,
        System.waiting, System.checkCleanupDeadline, System.cleaningGroup]
      repeat' split
      all_goals exact .own (le_refl _)

end Environment

end PkgexecLinux.Supervisor

import PkgexecLinux.Foundation.Runs
import PkgexecLinux.Supervisor.Loop

/-!
# The start gate

Whether the program ran is inferred from three pipes.  This module extracts from
the whole system the part that decides the inference, says once what any step
can do to it, and derives the invariants of the gate from that.
-/

namespace PkgexecLinux.Supervisor

open Foundation Kernel Process

/-- Coarse place of the supervisor, as far as the gate depends on it. -/
inductive Region where
  | admission
  | opening
  | abandoning
  | running
  | gating
  | releasing
  | verifying
  | finished (outcome : Outcome)
  | lost
  deriving DecidableEq

def Place.region : Place → Region
  | .checkSupport | .checkBeforeAdmission | .validateShape | .admitResources
  | .checkBeforeInterpreter | .admitInterpreter | .checkBeforeFork | .makePipes
  | .fork => .admission
  | .openPidfd => .opening
  | .killChild _ | .waitChild _ => .abandoning
  | .gateCancellation => .gating
  | .writeStart => .releasing
  | .verifyParentCleanup => .verifying
  | .returned outcome => .finished outcome
  | .threw | .terminated => .lost
  | _ => .running

/-- The part of the system that decides about start evidence. -/
structure Gate where
  region : Region
  phase : ChildPhase
  committed : Bool
  control : Pipe
  controlOpen : Bool
  controlBytes : List UInt8
  ready : List UInt8
  readySeen : Bool
  start : List UInt8
  startOpen : Bool
  startReleased : Bool
  execConfirmed : Bool
  observed : Bool
  beforeStart : Bool
  childExited : Bool
  childReaped : Bool

def System.gate (system : System) : Gate where
  region := system.place.region
  phase := system.child.phase
  committed := system.child.committed
  control := system.control
  controlOpen := system.locals.controlOpen
  controlBytes := system.locals.controlBytes
  ready := system.ready.buffer
  readySeen := system.locals.readySeen
  start := system.start
  startOpen := system.locals.startOpen
  startReleased := system.locals.startReleased
  execConfirmed := system.locals.execConfirmed
  observed := system.locals.cancellationObserved
  beforeStart := system.locals.cancellationBeforeStart
  childExited := system.locals.childExited
  childReaped := system.locals.childReaped

namespace Gate

/-- Bytes of a failure record that have entered the control pipe. -/
@[grind] def recorded (gate : Gate) : List UInt8 := gate.controlBytes ++ gate.control.buffer

@[grind] def observe (gate : Gate) (region : Region) : Gate :=
  { gate with
    region
    observed := true
    beforeStart := !gate.startReleased
    startOpen := gate.startOpen && gate.startReleased }

/-- The child stops running. -/
@[grind] def ended (gate : Gate) (information : ExitInformation) : Gate :=
  { gate with
    phase := .zombie information
    control := { gate.control with writers := 0 } }

end Gate

/-- Everything a step can do to the gate.  `place` and `move` are those of the
step; they are named where an assumption may forbid the step. -/
inductive GateStep (place : Place) (move : Move) (gate : Gate) : Gate → Prop where
  | stutter : GateStep place move gate gate
  | lose : gate.region = .running ∨ gate.region = .releasing →
      GateStep place move gate { gate with region := .lost }
  | refuse (outcome : Outcome) : gate.region = .admission →
      outcome.started = false →
      GateStep place move gate { gate with region := .finished outcome }
  | fork (region : Region) (pending : List ChildStage) : gate.region = .admission →
      region = .opening ∨ region = .running →
      GateStep place move gate { gate with
        region, phase := .setup pending, committed := false
        control := ⟨[], 1⟩, ready := [] }
  | opened : gate.region = .opening →
      GateStep place move gate { gate with region := .running }
  | abandon : gate.region = .opening →
      GateStep place move gate { gate with region := .abandoning, startOpen := false }
  | abandoned (outcome : Outcome) : gate.region = .abandoning →
      outcome.started = false → gate.phase.stopped = true →
      GateStep place move gate { gate with
        region := .finished outcome, phase := .reaped }
  | approach : gate.region = .running → gate.readySeen = true →
      gate.startReleased = false → gate.observed = false →
      GateStep place move gate { gate with region := .gating }
  | observe : gate.region = .running ∨ gate.region = .gating →
      gate.observed = false → gate.childExited = false →
      GateStep place move gate (gate.observe .running)
  | leaveGate : gate.region = .gating ∨ gate.region = .releasing →
      ∀ startOpen, GateStep place move gate { gate with region := .running, startOpen }
  | passGate : gate.region = .gating → gate.observed = false →
      GateStep place move gate { gate with region := .releasing }
  | release : gate.region = .releasing → gate.phase.readsStart = true →
      GateStep place move gate { gate with
        region := .running, start := gate.start ++ [1]
        startOpen := false, startReleased := true }
  | exitObserved (information : ExitInformation) : gate.region = .running →
      gate.phase = .zombie information →
      GateStep place move gate { gate with childExited := true }
  | reap (phase : ChildPhase) : gate.region = .running → gate.childExited = true →
      phase = gate.phase ∨ (∃ information, gate.phase = .zombie information) ∧
        phase = .reaped →
      GateStep place move gate { gate with phase, childReaped := true }
  | controlData (bytes rest : List UInt8) : gate.region = .running →
      gate.controlOpen = true →
      bytes ≠ [] → bytes.length ≤ ChildError.size - gate.controlBytes.length →
      gate.control.buffer = bytes ++ rest →
      GateStep place move gate { gate with
        control := { gate.control with buffer := rest }
        controlBytes := gate.controlBytes ++ bytes
        controlOpen := decide ((gate.controlBytes ++ bytes).length ≠ ChildError.size) }
  | controlEnd : gate.region = .running → gate.controlOpen = true →
      ChildError.size - gate.controlBytes.length = 0 ∨
        (gate.control.buffer = [] ∧ gate.control.writers = 0) →
      GateStep place move gate { gate with
        controlOpen := false
        execConfirmed := gate.execConfirmed ||
          (gate.controlBytes.isEmpty && gate.startReleased) }
  | controlFailed (errno : Nat) : gate.region = .running →
      place = .readControl → move = .supervisor (.refused errno) →
      GateStep place move gate { gate with controlOpen := false }
  | readyData (bytes rest : List UInt8) : gate.region = .running →
      gate.ready = bytes ++ rest → bytes ≠ [] →
      GateStep place move gate { gate with
        ready := rest, readySeen := gate.readySeen || bytes == [1] }
  | finish : gate.region = .running → gate.childReaped = true →
      gate.controlOpen = false →
      GateStep place move gate { gate with region := .verifying }
  | conclude (outcome : Outcome) : gate.region = .verifying →
      (outcome.started = true → gate.controlBytes = [] ∧ gate.execConfirmed = true) →
      (outcome.started = false → gate.controlBytes ≠ [] ∨
        (gate.observed = true ∧ gate.beforeStart = true) ∨
        gate.execConfirmed = false) →
      GateStep place move gate { gate with region := .finished outcome }
  | prepare (stage : ChildStage) (pending : List ChildStage) :
      gate.phase = .setup (stage :: pending) →
      GateStep place move gate { gate with phase := .setup pending }
  | report (record : List UInt8) (status : UInt32) :
      (∃ pending, gate.phase = .setup pending) ∨ gate.phase = .executing →
      record.length = ChildError.size →
      GateStep place move gate { gate with phase := .reporting record status }
  | written (sent rest : List UInt8) (status : UInt32) :
      gate.phase = .reporting (sent ++ rest) status → sent ≠ [] →
      GateStep place move gate { gate with
        phase := .reporting rest status
        control := { gate.control with buffer := gate.control.buffer ++ sent } }
  | readied : gate.phase = .setup [] →
      GateStep place move gate { gate with
        phase := .awaitingStart, ready := gate.ready ++ [1] }
  | started (rest : List UInt8) : gate.phase = .awaitingStart →
      gate.start = 1 :: rest →
      GateStep place move gate { gate with phase := .closingDescriptors, start := rest }
  | closed : gate.phase = .closingDescriptors →
      GateStep place move gate { gate with phase := .executing }
  | commit : gate.phase = .executing →
      GateStep place move gate { gate with
        phase := .program, committed := true
        control := { gate.control with writers := 0 } }
  | killed (signal : UInt32) : move = .kill signal → gate.phase.stopped = false →
      GateStep place move gate (gate.ended (.signaled signal))
  | unready : gate.phase = .setup [] →
      GateStep place move gate (gate.ended (.exited 125))
  | unstarted (start : List UInt8) : gate.phase = .awaitingStart →
      (∃ value detail, move = .child (.fail value detail)) ∧ start = gate.start ∨
        (∃ byte, gate.start = byte :: start ∧ byte ≠ 1) ∨
        gate.start = [] ∧ gate.startOpen = false ∧ start = gate.start →
      GateStep place move gate { gate.ended (.exited 125) with start }
  | reported (record : List UInt8) (status : UInt32) :
      gate.phase = .reporting record status →
      (∃ value detail, move = .child (.fail value detail)) ∨ record = [] ∨
        gate.controlOpen = false →
      GateStep place move gate (gate.ended (.exited status))
  | exited (status : UInt32) : gate.phase = .program →
      GateStep place move gate (gate.ended (.exited status))
  | reapElsewhere (information : ExitInformation) : gate.phase = .zombie information →
      GateStep place move gate { gate with phase := .reaped }

theorem gate_childReport {place : Place} {answer : ChildAnswer}
    {system next : System} {record : List UInt8} {status : UInt32}
    (phase : system.child.phase = .reporting record status)
    (taken : system.childReport record status answer = some next) :
    GateStep place (.child answer) system.gate next.gate := by
  cases answer with
  | interrupted =>
      cases taken
      exact .stutter
  | exit status => simp [System.childReport] at taken
  | fail value detail =>
      cases taken
      exact .reported record status phase (.inl ⟨value, detail, rfl⟩)
  | succeed =>
      simp only [System.childReport] at taken
      split at taken
      next ended =>
        cases taken
        exact .reported record status phase (.inr ended)
      next more =>
        cases taken
        have nonempty : record ≠ [] := fun empty => more (.inl empty)
        exact .written record [] status (by rw [List.append_nil]; exact phase) nonempty
  | count bytes =>
      simp only [System.childReport] at taken
      split at taken
      next ended =>
        cases taken
        exact .reported record status phase (.inr ended)
      next more =>
        cases taken
        have nonempty : record ≠ [] := fun empty => more (.inl empty)
        refine .written (record.take (max 1 bytes)) (record.drop (max 1 bytes)) status
          (by rw [List.take_append_drop]; exact phase) ?_
        intro empty
        rcases List.take_eq_nil_iff.mp empty with zero | empty
        · omega
        · exact nonempty empty

theorem gate_childAwaitStart {place : Place} {answer : ChildAnswer}
    {system next : System} (phase : system.child.phase = .awaitingStart)
    (taken : system.childAwaitStart answer = some next) :
    GateStep place (.child answer) system.gate next.gate := by
  cases answer with
  | interrupted =>
      cases taken
      exact .stutter
  | exit status => simp [System.childAwaitStart] at taken
  | fail value detail =>
      cases taken
      exact .unstarted system.start phase (.inl ⟨⟨value, detail, rfl⟩, rfl⟩)
  | succeed | count bytes =>
      simp only [System.childAwaitStart] at taken
      split at taken
      next byte rest bytes =>
        split at taken
        next one =>
          cases taken
          exact .started rest phase (by rw [← one]; exact bytes)
        next other =>
          cases taken
          exact .unstarted rest phase (.inr (.inl ⟨byte, bytes, other⟩))
      next empty =>
        split at taken
        next => simp at taken
        next shut =>
          cases taken
          have shut : system.locals.startOpen = false := by simpa using shut
          exact .unstarted system.start phase (.inr (.inr ⟨empty, shut, rfl⟩))

theorem gate_childStep {config : Config} {place : Place} {answer : ChildAnswer}
    {system next : System} (taken : childStep config answer system = some next) :
    GateStep place (.child answer) system.gate next.gate := by
  unfold childStep at taken
  split at taken
  next phase =>
    cases answer <;> simp only [System.childReady, reduceCtorEq] at taken
    case interrupted => cases taken; exact .stutter
    case fail => cases taken; exact .unready phase
    all_goals
      split at taken
      · cases taken; exact .readied phase
      · cases taken; exact .unready phase
  next stage pending phase =>
    split at taken
    · cases taken; exact .prepare stage pending phase
    · cases taken; exact .report _ _ (.inl ⟨_, phase⟩) (ChildError.length_bytes _)
    · simp at taken
  next record status phase => exact gate_childReport phase taken
  next phase => exact gate_childAwaitStart phase taken
  next phase => cases taken; exact .closed phase
  next phase =>
    split at taken
    · cases taken; exact .commit phase
    · cases taken; exact .report _ _ (.inr phase) (ChildError.length_bytes _)
    · simp at taken
  next phase =>
    split at taken
    · cases taken; exact .exited _ phase
    · simp at taken
  all_goals simp at taken

theorem gate_observeChildExit {answer : Answer} {system : System}
    (here : system.place = .observeChildExit) :
    GateStep system.place (.supervisor answer) system.gate
      (system.observeChildExit answer).gate := by
  rcases system with ⟨place, locals, child, control, ready, output, error, start, token,
    clock, table, log⟩
  cases here
  unfold System.observeChildExit
  split
  · exact .stutter
  · split
    · exact .stutter
    · exact .stutter
    next information _ _ phase => exact .exitObserved information rfl phase
    · exact .stutter

/-- Observing the token does nothing, or it is the first observation of a child
that is not known to have exited. -/
theorem observeCancellation_cases (config : Config) (system : System) :
    system.observeCancellation config = system ∨
      system.locals.cancellationObserved = false ∧ system.locals.childExited = false ∧
        config.controlled = true ∧ system.token = true ∧
        system.observeCancellation config = system.set { system.locals with
          cancellationObserved := true
          cancellationBeforeStart := !system.locals.startReleased
          startOpen := system.locals.startOpen && system.locals.startReleased } := by
  unfold System.observeCancellation
  split
  next seen =>
    simp only [Bool.and_eq_true, Bool.not_eq_true'] at seen
    exact .inr ⟨seen.1.1.2, seen.1.2, seen.1.1.1, seen.2, rfl⟩
  next => exact .inl rfl

theorem gate_observeCancellation {config : Config} {answer : Answer} {system : System}
    (here : system.place = .observeCancellation) :
    GateStep system.place (.supervisor answer) system.gate
      ((system.observeCancellation config).goto .startGate).gate := by
  rcases observeCancellation_cases config system with same | ⟨fresh, alive, _, _, changed⟩
  · rw [same]
    rcases system with ⟨place, locals, child, control, ready, output, error, start, token,
      clock, table, log⟩
    cases here
    exact .stutter
  · rw [changed]
    exact .observe (.inl (by simp [System.gate, here, Place.region])) fresh alive

theorem gate_gateCancellation {config : Config} {answer : Answer} {system : System}
    (here : system.place = .gateCancellation) :
    GateStep system.place (.supervisor answer) system.gate
      (system.gateCancellation config).gate := by
  have gating : system.gate.region = .gating := by simp [System.gate, here, Place.region]
  unfold System.gateCancellation
  rcases observeCancellation_cases config system with same | ⟨fresh, alive, _, _, changed⟩
  · rw [same]
    dsimp only
    split
    next => exact .leaveGate (.inl gating) system.locals.startOpen
    next unseen => exact .passGate gating (eq_false_of_ne_true unseen)
  · rw [changed]
    exact .observe (.inr gating) fresh alive

theorem gate_writeStart {config : Config} {answer : Answer} {system : System}
    (here : system.place = .writeStart) :
    GateStep system.place (.supervisor answer) system.gate
      (system.writeStart config answer).gate := by
  have releasing : system.gate.region = .releasing := by
    simp [System.gate, here, Place.region]
  unfold System.writeStart
  split
  next => exact .stutter
  next => exact .leaveGate (.inr releasing) false
  next =>
    split
    next =>
      split
      next reader => exact .release releasing reader
      next =>
        split
        next => exact .leaveGate (.inr releasing) false
        next => exact .lose (.inr releasing)
    next => exact .leaveGate (.inr releasing) system.locals.startOpen

theorem gate_reap {answer : Answer} {system : System} {target : Place}
    (running : system.place.region = .running) (after : target.region = .running)
    (exited : system.locals.childExited = true) :
    GateStep system.place (.supervisor answer) system.gate
      ((system.reap.set { system.locals with childReaped := true }).goto target).gate := by
  have same : ((system.reap.set { system.locals with childReaped := true }).goto target).gate =
      { system.gate with phase := system.reap.child.phase, childReaped := true } := by
    unfold System.reap
    split <;> simp [System.gate, System.goto, System.set, System.setPhase, running, after]
  rw [same]
  refine .reap _ running exited ?_
  unfold System.reap
  split
  next information phase => exact .inr ⟨⟨information, phase⟩, rfl⟩
  next => exact .inl rfl

theorem gate_readControl {answer : Answer} {system : System}
    (here : system.place = .readControl) :
    GateStep system.place (.supervisor answer) system.gate
      (system.readControl answer).gate := by
  rcases system with ⟨place, locals, child, control, ready, output, error, start, token,
    clock, table, log⟩
  cases here
  unfold System.readControl
  split
  next opened =>
    have spec := control.read_spec (ChildError.size - locals.controlBytes.length) answer
    dsimp only at *
    split
    next bytes pipe result =>
      rw [result] at spec
      cases spec with
      | data _ rest nonempty fits cut =>
          exact .controlData bytes rest rfl opened nonempty fits cut
    next result =>
      rw [result] at spec
      cases spec with
      | endOfFile ended => exact .controlEnd rfl opened ended
    next => exact .stutter
    next => exact .stutter
    next errno _ result =>
      rw [result] at spec
      cases spec with
      | failed _ refused => exact .controlFailed errno rfl rfl (by rw [refused])
  next => exact .stutter

theorem gate_readReady {answer : Answer} {system : System}
    (here : system.place = .readReady) :
    GateStep system.place (.supervisor answer) system.gate
      (system.readReady answer).gate := by
  rcases system with ⟨place, locals, child, control, ready, output, error, start, token,
    clock, table, log⟩
  cases here
  unfold System.readReady
  split
  next opened =>
    have spec := ready.read_spec 1 answer
    dsimp only at *
    split
    next bytes pipe result =>
      rw [result] at spec
      cases spec with
      | data _ rest nonempty fits cut => exact .readyData bytes rest rfl cut nonempty
    all_goals exact .stutter
  next => exact .stutter

theorem finished_of_not_unfinished {system : System} (done : ¬system.unfinished = true) :
    system.locals.childReaped = true ∧ system.locals.controlOpen = false := by
  simp only [System.unfinished, Bool.not_eq_true, Bool.or_eq_false_iff,
    Bool.not_eq_false'] at done
  exact ⟨done.1.1.1.1, done.1.2⟩

theorem gate_supervisorStep {config : Config} {answer : Answer}
    {system next : System} (taken : supervisorStep config answer system = some next) :
    GateStep system.place (.supervisor answer) system.gate next.gate := by
  rcases system with ⟨place, locals, child, control, ready, output, error, start, token,
    clock, table, log⟩
  cases place with
  | checkSupport =>
      cases taken
      split
      · exact .stutter
      · exact .refuse _ rfl rfl
  | checkBeforeAdmission | checkBeforeInterpreter | checkBeforeFork =>
      cases taken
      unfold System.checkToken
      split
      · exact .refuse _ rfl rfl
      · exact .stutter
  | validateShape | admitInterpreter | makePipes =>
      cases taken
      unfold System.checkVerdict
      split
      · exact .stutter
      · exact .refuse _ rfl rfl
      · exact .refuse _ rfl rfl
  | admitResources =>
      cases taken
      unfold System.checkVerdict
      repeat' split
      · exact .stutter
      · exact .refuse _ rfl rfl
      · exact .refuse _ rfl rfl
      · exact .stutter
  | fork =>
      cases taken
      unfold System.fork
      split
      · exact .refuse _ rfl rfl
      · unfold System.forked
        split
        · exact .fork .opening _ rfl (.inl rfl)
        · exact .fork .running _ rfl (.inr rfl)
  | openPidfd =>
      cases taken
      unfold System.openPidfd
      split
      · exact .abandon rfl
      · exact .opened rfl
  | killChild errno =>
      cases taken
      exact .stutter
  | waitChild errno =>
      simp only [supervisorStep, System.waitChild] at taken
      split at taken
      · cases taken
        exact .stutter
      · split at taken
        next stopped =>
          cases taken
          exact .abandoned _ rfl rfl stopped
        next => simp at taken
  | loopHead | loopEnd =>
      cases taken
      split
      next => exact .stutter
      next done =>
        rcases finished_of_not_unfinished done with ⟨reaped, shut⟩
        exact .finish rfl reaped shut
  | observeChildExit =>
      cases taken
      exact gate_observeChildExit rfl
  | observeCancellation =>
      cases taken
      exact gate_observeCancellation rfl
  | startGate =>
      cases taken
      unfold System.startGate
      split
      next ready =>
        simp only [Bool.and_eq_true, Bool.not_eq_true'] at ready
        exact .approach rfl ready.1.1 ready.1.2 ready.2
      next => exact .stutter
  | gateCancellation =>
      cases taken
      exact gate_gateCancellation rfl
  | writeStart =>
      cases taken
      exact gate_writeStart rfl
  | sendCancellationSignal =>
      cases taken
      unfold System.sendCancellationSignal
      split <;> exact .stutter
  | signalling site pass =>
      cases taken
      unfold System.signalling
      split
      · exact .stutter
      · exact .stutter
      · cases site <;> exact .stutter
  | cancellationClock | readClock | beginWait =>
      cases taken
      exact .stutter
  | escalate =>
      cases taken
      unfold System.escalate
      split <;> exact .stutter
  | startCleanup =>
      cases taken
      unfold System.startCleanup
      repeat' split
      all_goals exact .stutter
  | continueCleanup =>
      cases taken
      unfold System.continueCleanup
      repeat' split
      all_goals exact .stutter
  | waiting wait =>
      cases taken
      unfold System.waiting
      split <;> exact .stutter
  | checkCleanupDeadline =>
      cases taken
      unfold System.checkCleanupDeadline
      repeat' split
      all_goals exact .stutter
  | reapControlled =>
      cases taken
      unfold System.reapControlled
      split
      next due =>
        split
        next => exact .stutter
        next =>
          simp only [Bool.and_eq_true] at due
          exact gate_reap rfl rfl due.1.1.1
      next => exact .stutter
  | reapUncontrolled =>
      cases taken
      unfold System.reapUncontrolled
      split
      next due =>
        split
        next => exact .stutter
        next =>
          simp only [Bool.and_eq_true] at due
          exact gate_reap rfl rfl due.1.1
      next => exact .stutter
  | cleaningGroup phase =>
      cases taken
      unfold System.cleaningGroup
      split <;> exact .stutter
  | drainOutput =>
      cases taken
      unfold System.drainOutput
      repeat' split
      all_goals first | exact .stutter | exact .lose (.inl rfl)
  | drainError =>
      cases taken
      unfold System.drainError
      repeat' split
      all_goals first | exact .stutter | exact .lose (.inl rfl)
  | readControl =>
      cases taken
      exact gate_readControl rfl
  | readReady =>
      cases taken
      exact gate_readReady rfl
  | verifyParentCleanup =>
      cases taken
      exact .conclude _ rfl started_classify not_started_classify
  | returned outcome => simp [supervisorStep] at taken
  | threw => simp [supervisorStep] at taken
  | terminated => simp [supervisorStep] at taken

/-- Every step of the system is a step of the gate. -/
theorem gate_step {config : Config} {move : Move} {system next : System}
    (taken : step config move system = some next) :
    GateStep system.place move system.gate next.gate := by
  cases stepped_of_step taken with
  | supervisor taken => exact gate_supervisorStep taken
  | child taken => exact gate_childStep taken
  | kill signal running => exact .killed signal rfl running
  | reapElsewhere information phase => exact .reapElsewhere information phase
  | _ => exact .stutter

end PkgexecLinux.Supervisor

import PkgexecLinux.Supervisor.Drain
import PkgexecLinux.Supervisor.StartEvidence

/-!
# The course of the supervisor

Which way the supervisor goes through `execute_backend`, and the flags that its
branches test on the way.  What it writes into the start pipe, whom it signals
by number and how it leaves the function are properties of this course alone.
-/

namespace PkgexecLinux.Supervisor

open Foundation Kernel Process

/-- Coarse place of the supervisor, in source order. -/
inductive Leg where
  | admission
  | opening
  | killing
  | abandoning
  | head
  | exitCheck
  | cancelCheck
  | gate
  | gateCheck
  | writing
  | scanning
  | checking
  | lastPass
  | cleaning (phase : CleanupPhase)
  /-- Every other place inside the loop. -/
  | rest
  | verifying
  | finished (outcome : Outcome)
  | threw
  | terminated
  deriving DecidableEq

def Place.leg : Place → Leg
  | .checkSupport | .checkBeforeAdmission | .validateShape | .admitResources
  | .checkBeforeInterpreter | .admitInterpreter | .checkBeforeFork | .makePipes
  | .fork => .admission
  | .openPidfd => .opening
  | .killChild _ => .killing
  | .waitChild _ => .abandoning
  | .loopHead => .head
  | .observeChildExit => .exitCheck
  | .observeCancellation => .cancelCheck
  | .startGate => .gate
  | .gateCancellation => .gateCheck
  | .writeStart => .writing
  | .waiting _ => .scanning
  | .checkCleanupDeadline => .checking
  | .signalling .finalKill _ => .lastPass
  | .cleaningGroup phase => .cleaning phase
  | .verifyParentCleanup => .verifying
  | .returned outcome => .finished outcome
  | .threw => .threw
  | .terminated => .terminated
  | _ => .rest

/-- The part of the system that decides about the supervisor's way. -/
structure Course where
  leg : Leg
  /-- The child exists, or has existed. -/
  born : Bool
  /-- The child has been waited for. -/
  gone : Bool
  exited : Bool
  reaped : Bool
  complete : Bool
  readySeen : Bool
  released : Bool
  observed : Bool

def System.course (system : System) : Course where
  leg := system.place.leg
  born := system.child.phase != .unborn
  gone := system.child.phase == .reaped
  exited := system.locals.childExited
  reaped := system.locals.childReaped
  complete := system.locals.cleanupComplete
  readySeen := system.locals.readySeen
  released := system.locals.startReleased
  observed := system.locals.cancellationObserved

namespace Course

/-- The condition of the start gate: the ready byte has been read, and neither has the
start byte been written nor a cancellation observed. -/
@[grind] def armed (course : Course) : Bool :=
  course.readySeen && !course.released && !course.observed

end Course

namespace System

/-- `observe_child_exit` is about to find the child's exit. -/
def findsExit (system : System) : Move → Bool
  | .supervisor answer =>
      system.place == .observeChildExit && !system.locals.childExited &&
        match answer, system.child.phase with
        | .interrupted, _ | .refused _, _ => false
        | _, .zombie _ => true
        | _, _ => false
  | _ => false

/-- The supervisor is about to begin another iteration of its loop. -/
def iterates (system : System) : Move → Bool
  | .supervisor _ => system.place == .loopHead && system.unfinished
  | _ => false

/-- A read in `drain_fd` has data for a string that cannot grow. -/
def drainThrows (system : System) : Move → Bool
  | .supervisor .exhausted =>
      match system.place with
      | .drainOutput => system.locals.outputOpen && !system.output.buffer.isEmpty
      | .drainError => system.locals.errorOpen && !system.error.buffer.isEmpty
      | _ => false
  | _ => false

end System

/-- `cleanup_group` has sent its last signal. -/
@[grind] def signalsOver : CleanupPhase → Bool
  | .afterKill _ => true
  | .probe | .terminate | .afterTerminate _ | .kill => false

/-- Everything a step can do to the course. -/
inductive CourseStep (system : System) (move : Move) (course : Course) : Course → Prop where
  | stutter : CourseStep system move course course
  | refuse (outcome : Outcome) : course.leg = .admission →
      CourseStep system move course { course with leg := .finished outcome }
  | fork (leg : Leg) : course.leg = .admission → leg = .opening ∨ leg = .head →
      CourseStep system move course { course with leg, born := true, gone := false }
  | opened : course.leg = .opening →
      CourseStep system move course { course with leg := .head }
  | abandon : course.leg = .opening →
      CourseStep system move course { course with leg := .killing }
  | kill : course.leg = .killing →
      CourseStep system move course { course with leg := .abandoning }
  | abandoned (outcome : Outcome) : course.leg = .abandoning →
      CourseStep system move course { course with
        leg := .finished outcome, born := true, gone := true }
  | iterate : course.leg = .head → system.iterates move = true →
      CourseStep system move course { course with leg := .exitCheck }
  | again : course.leg = .rest →
      CourseStep system move course { course with leg := .head }
  | leave : course.leg = .head ∨ course.leg = .rest → course.reaped = true →
      CourseStep system move course { course with leg := .verifying }
  | exitFound : course.leg = .exitCheck → system.findsExit move = true →
      CourseStep system move course { course with leg := .cancelCheck, exited := true }
  | exitMissed : course.leg = .exitCheck →
      CourseStep system move course { course with leg := .cancelCheck }
  | checked : course.leg = .cancelCheck →
      CourseStep system move course { course with leg := .gate }
  | observe (leg : Leg) :
      course.leg = .cancelCheck ∧ leg = .gate ∨ course.leg = .gateCheck ∧ leg = .rest →
      course.exited = false →
      CourseStep system move course { course with leg, observed := true }
  | approach : course.leg = .gate → course.armed = true →
      CourseStep system move course { course with leg := .gateCheck }
  | write : course.leg = .gateCheck →
      CourseStep system move course { course with leg := .writing }
  | pass : course.leg = .gate ∨ course.leg = .gateCheck ∨ course.leg = .writing →
      CourseStep system move course { course with leg := .rest }
  | release : course.leg = .writing →
      CourseStep system move course { course with leg := .rest, released := true }
  | terminate : course.leg = .writing →
      CourseStep system move course { course with leg := .terminated }
  | scan : course.leg = .rest →
      CourseStep system move course { course with leg := .scanning }
  | scanned : course.leg = .scanning →
      CourseStep system move course { course with leg := .rest, complete := true }
  | remaining : course.leg = .scanning →
      CourseStep system move course { course with leg := .checking }
  | inTime : course.leg = .checking →
      CourseStep system move course { course with leg := .rest }
  | late : course.leg = .checking →
      CourseStep system move course { course with leg := .lastPass }
  | giveUp : course.leg = .lastPass →
      CourseStep system move course { course with leg := .rest, complete := true }
  | reapControlled : course.leg = .rest → course.exited = true → course.complete = true →
      CourseStep system move course { course with gone := true, reaped := true }
  | reapUncontrolled : course.leg = .rest → course.exited = true → course.reaped = false →
      CourseStep system move course { course with
        leg := .cleaning .probe, gone := true, reaped := true }
  | sweep (phase later : CleanupPhase) : course.leg = .cleaning phase →
      (signalsOver phase = true → signalsOver later = true) →
      CourseStep system move course { course with leg := .cleaning later }
  | swept (phase : CleanupPhase) (complete : Bool) : course.leg = .cleaning phase →
      CourseStep system move course { course with leg := .rest, complete }
  | throw : course.leg = .rest → system.drainThrows move = true →
      CourseStep system move course { course with leg := .threw }
  | ready (readySeen : Bool) : course.leg = .rest →
      CourseStep system move course { course with readySeen }
  | conclude (outcome : Outcome) : course.leg = .verifying →
      CourseStep system move course { course with leg := .finished outcome }
  | depart : course.born = true →
      CourseStep system move course { course with gone := true }

section Inversion

variable {config : Config} {answer : Answer} {system next : System}

theorem course_childStep {answer : ChildAnswer}
    (taken : childStep config answer system = some next) : next.course = system.course := by
  have standing : ∀ phase : ChildPhase, phase.waitable = true →
      (phase != .unborn) = true ∧ (phase == .reaped) = false := by
    intro phase waitable
    cases phase <;> simp_all [ChildPhase.waitable]
  rcases childStep_effect taken with ⟨before, effect⟩
  cases effect with
  | proceed child _ _ _ after | release child _ _ _ _ _ after =>
      simp [System.course, standing _ before, standing _ after]

theorem course_observeChildExit (here : system.place = .observeChildExit) :
    CourseStep system (.supervisor answer) system.course
      (system.observeChildExit answer).course := by
  have leg : system.course.leg = .exitCheck := by simp [System.course, here, Place.leg]
  have missed : CourseStep system (.supervisor answer) system.course
      (system.goto .observeCancellation).course := .exitMissed leg
  unfold System.observeChildExit
  split
  · exact missed
  next unseen =>
    split
    · exact .stutter
    · exact missed
    next information notInterrupted notRefused phase =>
      refine .exitFound leg ?_
      simp [System.findsExit, here, eq_false_of_ne_true unseen, phase]
    · exact missed

theorem course_observeCancellation (here : system.place = .observeCancellation) :
    CourseStep system (.supervisor answer) system.course
      ((system.observeCancellation config).goto .startGate).course := by
  have leg : system.course.leg = .cancelCheck := by simp [System.course, here, Place.leg]
  rcases observeCancellation_cases config system with same | ⟨_, alive, _, _, changed⟩
  · rw [same]
    exact .checked leg
  · rw [changed]
    exact .observe .gate (.inl ⟨leg, rfl⟩) alive

theorem course_gateCancellation (here : system.place = .gateCancellation) :
    CourseStep system (.supervisor answer) system.course
      (system.gateCancellation config).course := by
  have leg : system.course.leg = .gateCheck := by simp [System.course, here, Place.leg]
  unfold System.gateCancellation
  rcases observeCancellation_cases config system with same | ⟨_, alive, _, _, changed⟩
  · rw [same]
    dsimp only
    split
    · exact .pass (.inr (.inl leg))
    · exact .write leg
  · rw [changed]
    exact .observe .rest (.inr ⟨leg, rfl⟩) alive

theorem course_writeStart (here : system.place = .writeStart) :
    CourseStep system (.supervisor answer) system.course
      (system.writeStart config answer).course := by
  have leg : system.course.leg = .writing := by simp [System.course, here, Place.leg]
  unfold System.writeStart
  split
  · exact .stutter
  · exact .pass (.inr (.inr leg))
  · split
    · split
      · exact .release leg
      · split
        · exact .pass (.inr (.inr leg))
        · exact .terminate leg
    · exact .pass (.inr (.inr leg))

/-- `waitpid` for a child that is known to have exited leaves it waited for. -/
theorem course_reap {target : Place}
    (dead : system.child.phase.dead = true) :
    ((system.reap.set { system.locals with childReaped := true }).goto target).course =
      { system.course with leg := target.leg, gone := true, reaped := true } := by
  unfold System.reap
  cases phase : system.child.phase <;>
    simp_all [System.course, System.goto, System.set, System.setPhase, ChildPhase.dead, bne]

/-- `cleanup_group` sends no signal after its last one. -/
theorem signalsOver_step {table : ProcessTable} {state : LeaderState}
    {phase later : CleanupPhase} {sent : Option (Signal × List Nat)}
    (stepped : cleanupGroupStep table state phase = .running later sent)
    (sentLast : signalsOver phase = true) : signalsOver later = true := by
  cases phase with
  | afterKill attempt =>
      simp only [cleanupGroupStep] at stepped
      split at stepped
      · split at stepped <;> cases stepped
        rfl
      · cases stepped
  | probe | terminate | afterTerminate | kill => simp [signalsOver] at sentLast

theorem course_drainFd {stream : CaptureStream} (here : system.place = stream.place) :
    CourseStep system (.supervisor answer) system.course
      (system.drainFd answer stream).course := by
  have spec := drainFd_spec system answer stream
  generalize system.drainFd answer stream = next at spec ⊢
  cases spec with
  | throw full opened nonempty =>
      subst full
      have throws : system.drainThrows (.supervisor .exhausted) = true := by
        cases stream <;>
          simpa [System.drainThrows, here, CaptureStream.place] using ⟨opened, nonempty⟩
      have leg : system.course.leg = .rest := by
        cases stream <;> simp [System.course, here, CaptureStream.place, Place.leg]
      exact .throw leg throws
  | retry => exact .stutter
  | pass | take | ended | failed =>
      rcases system with ⟨place, locals, child, control, ready, output, error, start, token,
        clock, table, log⟩
      cases stream <;> cases here <;> exact .stutter

theorem course_supervisorStep (sound : system.GateSound)
    (taken : supervisorStep config answer system = some next) :
    CourseStep system (.supervisor answer) system.course next.course := by
  have exited : system.locals.childExited = true → system.child.phase.dead = true :=
    sound.2.exited
  rcases system with ⟨place, locals, child, control, ready, output, error, start, token,
    clock, table, log⟩
  cases place with
  | checkSupport =>
      cases taken
      split
      · exact .stutter
      · exact .refuse _ rfl
  | checkBeforeAdmission | checkBeforeInterpreter | checkBeforeFork =>
      cases taken
      unfold System.checkToken
      split
      · exact .refuse _ rfl
      · exact .stutter
  | validateShape | admitInterpreter | makePipes =>
      cases taken
      unfold System.checkVerdict
      split
      · exact .stutter
      · exact .refuse _ rfl
      · exact .refuse _ rfl
  | admitResources =>
      cases taken
      unfold System.checkVerdict
      repeat' split
      · exact .stutter
      · exact .refuse _ rfl
      · exact .refuse _ rfl
      · exact .stutter
  | fork =>
      cases taken
      unfold System.fork
      split
      · exact .refuse _ rfl
      · unfold System.forked
        split
        · exact .fork .opening rfl (.inl rfl)
        · exact .fork .head rfl (.inr rfl)
  | openPidfd =>
      cases taken
      unfold System.openPidfd
      split
      · exact .abandon rfl
      · exact .opened rfl
  | killChild errno =>
      cases taken
      exact .kill rfl
  | waitChild errno =>
      simp only [supervisorStep, System.waitChild] at taken
      split at taken
      · cases taken
        exact .stutter
      · split at taken <;> cases taken
        exact .abandoned _ rfl
  | loopHead =>
      cases taken
      split
      next goes => exact .iterate rfl (by simpa [System.iterates] using goes)
      next done => exact .leave (.inl rfl) (finished_of_not_unfinished done).1
  | loopEnd =>
      cases taken
      split
      next => exact .again rfl
      next done => exact .leave (.inr rfl) (finished_of_not_unfinished done).1
  | observeChildExit =>
      cases taken
      exact course_observeChildExit rfl
  | observeCancellation =>
      cases taken
      exact course_observeCancellation rfl
  | startGate =>
      cases taken
      unfold System.startGate
      split
      next armed => exact .approach rfl armed
      next => exact .pass (.inl rfl)
  | gateCancellation =>
      cases taken
      exact course_gateCancellation rfl
  | writeStart =>
      cases taken
      exact course_writeStart rfl
  | sendCancellationSignal =>
      cases taken
      unfold System.sendCancellationSignal
      split <;> exact .stutter
  | signalling site pass =>
      cases taken
      unfold System.signalling
      cases site with
      | finalKill =>
          split
          · exact .stutter
          · exact .stutter
          · exact .giveUp rfl
      | cancellation | escalation | cleanupTerm | cleanupKill | deadlineKill =>
          split <;> exact .stutter
  | cancellationClock | readClock =>
      cases taken
      exact .stutter
  | escalate =>
      cases taken
      unfold System.escalate
      split <;> exact .stutter
  | startCleanup =>
      cases taken
      unfold System.startCleanup
      repeat' split
      all_goals exact .stutter
  | continueCleanup =>
      cases taken
      unfold System.continueCleanup
      repeat' split
      all_goals exact .stutter
  | beginWait =>
      cases taken
      exact .scan rfl
  | waiting wait =>
      cases taken
      unfold System.waiting
      split
      · exact .stutter
      · exact .scanned rfl
      · exact .remaining rfl
  | checkCleanupDeadline =>
      cases taken
      unfold System.checkCleanupDeadline
      split
      · split
        · exact .inTime rfl
        · exact .late rfl
      · exact .inTime rfl
  | reapControlled =>
      cases taken
      unfold System.reapControlled
      split
      next due =>
        split
        next => exact .stutter
        next =>
          simp only [Bool.and_eq_true] at due
          rw [course_reap (exited due.1.1.1)]
          exact .reapControlled rfl due.1.1.1 due.1.2
      next => exact .stutter
  | reapUncontrolled =>
      cases taken
      unfold System.reapUncontrolled
      split
      next due =>
        split
        next => exact .stutter
        next =>
          simp only [Bool.and_eq_true, Bool.not_eq_true'] at due
          rw [course_reap (exited due.1.1)]
          exact .reapUncontrolled rfl due.1.1 due.2
      next => exact .stutter
  | cleaningGroup phase =>
      cases taken
      unfold System.cleaningGroup
      split
      next stepped => exact .sweep phase _ rfl (signalsOver_step stepped)
      next stepped => exact .sweep phase _ rfl (signalsOver_step stepped)
      next gone _ => exact .swept phase gone rfl
  | drainOutput =>
      cases taken
      rw [System.drainOutput_eq]
      exact course_drainFd rfl
  | drainError =>
      cases taken
      rw [System.drainError_eq]
      exact course_drainFd rfl
  | readControl =>
      cases taken
      unfold System.readControl
      repeat' split
      all_goals exact .stutter
  | readReady =>
      cases taken
      unfold System.readReady
      repeat' split
      all_goals first | exact .stutter | exact .ready _ rfl
  | verifyParentCleanup =>
      cases taken
      exact .conclude _ rfl
  | returned outcome => simp [supervisorStep] at taken
  | threw => simp [supervisorStep] at taken
  | terminated => simp [supervisorStep] at taken

/-- Every step of the system is a step of the supervisor's course. -/
theorem course_step {move : Move} (sound : system.GateSound)
    (taken : step config move system = some next) :
    CourseStep system move system.course next.course := by
  cases stepped_of_step taken with
  | supervisor taken => exact course_supervisorStep sound taken
  | child taken =>
      rw [course_childStep taken]
      exact .stutter
  | kill signal running =>
      have same : (system.endChild (.signaled signal)).course = system.course := by
        cases phase : system.child.phase <;>
          simp_all [System.course, System.endChild, ChildPhase.stopped, bne]
      rw [same]
      exact .stutter
  | reapElsewhere information phase =>
      have same : (system.setPhase .reaped).course = { system.course with gone := true } := by
        simp [System.course, System.setPhase, phase, bne]
      rw [same]
      exact .depart (by simp [System.course, phase, bne])
  | _ => exact .stutter

end Inversion

end PkgexecLinux.Supervisor

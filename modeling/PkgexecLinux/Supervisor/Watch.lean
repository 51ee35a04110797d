import PkgexecLinux.Supervisor.StartGate

/-!
# Signals and cleanup of a controlled execution

Four flags, two deadlines and three branches decide when the supervisor signals
the execution's group.  This module extracts them from the whole system together
with the record of the calls made, and says once what any step can do to them.
-/

namespace PkgexecLinux.Supervisor

open Foundation Kernel Process

/-- A call of the supervisor that addresses the group, or the clock reading that
fixes the grace period. -/
def Event.isCall : Event → Bool
  | .signalPass .. | .gracePeriod _ | .groupWait => true
  | .delivered .. | .groupSignal .. | .process _ => false

/-- Coarse place of the supervisor, as far as signals and cleanup depend on it. -/
inductive Stage where
  | elsewhere
  | sending
  | passing (site : PassSite)
  | timing
  | reading
  | escalating
  | starting
  | continuing
  | beginning
  | scanning
  | checking
  | reaping
  | sweeping
  | finished (outcome : Outcome)
  deriving DecidableEq

def Place.stage : Place → Stage
  | .sendCancellationSignal => .sending
  | .signalling site _ => .passing site
  | .cancellationClock => .timing
  | .readClock => .reading
  | .escalate => .escalating
  | .startCleanup => .starting
  | .continueCleanup => .continuing
  | .beginWait => .beginning
  | .waiting _ => .scanning
  | .checkCleanupDeadline => .checking
  | .reapControlled => .reaping
  | .cleaningGroup _ => .sweeping
  | .returned outcome => .finished outcome
  | _ => .elsewhere

/-- The part of the system that decides about signals and cleanup. -/
structure Watch where
  stage : Stage
  startReleased : Bool
  execConfirmed : Bool
  exited : Bool
  reaped : Bool
  observed : Bool
  attempted : Bool
  delivered : Bool
  forced : Bool
  cancellationDeadline : Option Nat
  started : Bool
  complete : Bool
  cleanupDeadline : Option Nat
  now : Nat
  clock : Nat
  calls : List Event

def System.watch (system : System) : Watch where
  stage := system.place.stage
  startReleased := system.locals.startReleased
  execConfirmed := system.locals.execConfirmed
  exited := system.locals.childExited
  reaped := system.locals.childReaped
  observed := system.locals.cancellationObserved
  attempted := system.locals.cancellationSignalAttempted
  delivered := system.locals.cancellationSignalDelivered
  forced := system.locals.forcedSignalSent
  cancellationDeadline := system.locals.cancellationDeadline
  started := system.locals.cleanupStarted
  complete := system.locals.cleanupComplete
  cleanupDeadline := system.locals.cleanupDeadline
  now := system.locals.now
  clock := system.clock
  calls := system.log.filter Event.isCall

/-- The step ends a pass of `send_cancellation_signal` whose signal the kernel
admits for the leader. -/
def deliversCancellation (system : System) : Move → Bool
  | .supervisor answer =>
      match system.place with
      | .signalling .cancellation pass =>
          match pass.step system.table system.leaderState answer with
          | .returned result => result.leaderSignaled
          | .running _ _ => false
      | _ => false
  | _ => false

namespace Watch

/-- The supervisor calls `signal_process_group_members`. -/
@[grind] def pass (watch : Watch) (site : PassSite) (reading : Nat) : Watch :=
  { watch with
    stage := .passing site, calls := .signalPass site reading :: watch.calls }

/-- `send_cancellation_signal` makes its pass. -/
@[grind] def due (watch : Watch) : Bool :=
  watch.observed && !watch.attempted && !(watch.startReleased && !watch.execConfirmed)

end Watch

/-- Everything a step can do to the watched part.  `delivers` tells whether the
step is one of `deliversCancellation`. -/
inductive WatchStep (config : Config) (delivers : Bool) (watch : Watch) :
    Watch → Prop where
  | stutter : WatchStep config delivers watch watch
  | tick (duration : Nat) :
      WatchStep config delivers watch { watch with clock := watch.clock + duration }
  | refuse (outcome : Outcome) : watch.stage = .elsewhere →
      outcome.cancelledAfter = false →
      WatchStep config delivers watch { watch with stage := .finished outcome }
  | enter : watch.stage = .elsewhere →
      WatchStep config delivers watch { watch with stage := .sending }
  | exitObserved : watch.stage = .elsewhere →
      WatchStep config delivers watch { watch with exited := true }
  | observe (stage : Stage) : watch.stage = .elsewhere →
      stage = .elsewhere ∨ stage = .sending → config.controlled = true →
      watch.observed = false → watch.exited = false →
      WatchStep config delivers watch { watch with stage, observed := true }
  | release : watch.stage = .elsewhere →
      WatchStep config delivers watch { watch with
        stage := .sending, startReleased := true }
  | confirm (execConfirmed : Bool) : watch.stage = .elsewhere →
      WatchStep config delivers watch { watch with execConfirmed }
  | cancel : watch.stage = .sending → watch.due = true →
      WatchStep config delivers watch (watch.pass .cancellation watch.clock)
  | skip : watch.stage = .sending → watch.due = false →
      WatchStep config delivers watch { watch with stage := .reading }
  | signalled : watch.stage = .passing .cancellation →
      WatchStep config delivers watch { watch with
        stage := .timing, attempted := true, delivered := delivers }
  | timed : watch.stage = .timing →
      WatchStep config delivers watch { watch with
        stage := .reading
        cancellationDeadline :=
          some (watch.clock + milliseconds config.gracePeriodMilliseconds)
        calls := .gracePeriod watch.clock :: watch.calls }
  | read : watch.stage = .reading →
      WatchStep config delivers watch { watch with
        stage := .escalating, now := watch.clock }
  | escalate : watch.stage = .escalating → watch.attempted = true →
      watch.forced = false → passed watch.now watch.cancellationDeadline = true →
      watch.complete = false →
      WatchStep config delivers watch (watch.pass .escalation watch.now)
  | wait : watch.stage = .escalating →
      WatchStep config delivers watch { watch with stage := .starting }
  | escalated : watch.stage = .passing .escalation →
      WatchStep config delivers watch { watch with
        stage := .starting, forced := true
        cleanupDeadline := some (watch.now + milliseconds 1000) }
  | startTerm : watch.stage = .starting → watch.exited = true →
      config.controlled = true → watch.started = false → watch.attempted = false →
      WatchStep config delivers watch
        ({ watch with started := true }.pass .cleanupTerm watch.now)
  | startTimed : watch.stage = .starting → watch.exited = true →
      config.controlled = true → watch.started = false → watch.attempted = true →
      watch.forced = false →
      WatchStep config delivers watch { watch with
        stage := .continuing, started := true
        cleanupDeadline := watch.cancellationDeadline }
  | startForced : watch.stage = .starting → watch.exited = true →
      config.controlled = true → watch.started = false → watch.forced = true →
      WatchStep config delivers watch { watch with
        stage := .continuing, started := true }
  | proceed : watch.stage = .starting →
      WatchStep config delivers watch { watch with stage := .continuing }
  | termed : watch.stage = .passing .cleanupTerm →
      WatchStep config delivers watch { watch with
        stage := .continuing
        cleanupDeadline := some (watch.now + milliseconds 200) }
  | kill : watch.stage = .continuing → watch.exited = true → watch.started = true →
      watch.complete = false → watch.forced = true →
      WatchStep config delivers watch (watch.pass .cleanupKill watch.now)
  | killed : watch.stage = .passing .cleanupKill →
      WatchStep config delivers watch { watch with stage := .beginning }
  | await : watch.stage = .continuing → watch.exited = true → watch.started = true →
      watch.complete = false → watch.forced = false →
      WatchStep config delivers watch { watch with stage := .beginning }
  | settled : watch.stage = .continuing →
      WatchStep config delivers watch { watch with stage := .reaping }
  | scan : watch.stage = .beginning →
      WatchStep config delivers watch { watch with
        stage := .scanning, calls := .groupWait :: watch.calls }
  | gone : watch.stage = .scanning →
      WatchStep config delivers watch { watch with stage := .reaping, complete := true }
  | remaining : watch.stage = .scanning →
      WatchStep config delivers watch { watch with stage := .checking }
  | late : watch.stage = .checking → passed watch.now watch.cleanupDeadline = true →
      watch.forced = false →
      WatchStep config delivers watch (watch.pass .deadlineKill watch.now)
  | lateAgain : watch.stage = .checking →
      passed watch.now watch.cleanupDeadline = true → watch.forced = true →
      WatchStep config delivers watch (watch.pass .finalKill watch.now)
  | inTime : watch.stage = .checking →
      WatchStep config delivers watch { watch with stage := .reaping }
  | deadlineKilled : watch.stage = .passing .deadlineKill →
      WatchStep config delivers watch { watch with
        stage := .reaping, forced := true
        cleanupDeadline := some (watch.now + milliseconds 1000) }
  | finalKilled : watch.stage = .passing .finalKill →
      WatchStep config delivers watch { watch with stage := .reaping, complete := true }
  | reap : watch.stage = .reaping → watch.exited = true → watch.complete = true →
      WatchStep config delivers watch { watch with stage := .elsewhere, reaped := true }
  | retain : watch.stage = .reaping →
      WatchStep config delivers watch { watch with stage := .elsewhere }
  | reapUncontrolled : watch.stage = .elsewhere → config.controlled = false →
      WatchStep config delivers watch { watch with stage := .sweeping, reaped := true }
  | swept (complete : Bool) : watch.stage = .sweeping →
      WatchStep config delivers watch { watch with stage := .elsewhere, complete }
  | conclude (outcome : Outcome) : watch.stage = .elsewhere →
      (outcome.cancelledAfter = true → watch.delivered = true) →
      WatchStep config delivers watch { watch with stage := .finished outcome }

section Inversion

variable {config : Config} {answer : Answer} {system next : System}

theorem watch_childStep {answer : ChildAnswer}
    (taken : childStep config answer system = some next) : next.watch = system.watch := by
  rcases childStep_frame taken with ⟨_, _, _, _, _, _, rfl⟩
  rfl

theorem watch_observeCancellation (here : system.place = .observeCancellation)
    (delivers : Bool) :
    WatchStep config delivers system.watch
      ((system.observeCancellation config).goto .startGate).watch := by
  have stage : system.watch.stage = .elsewhere := by simp [System.watch, here, Place.stage]
  rcases observeCancellation_cases config system with
    same | ⟨fresh, alive, controlled, _, changed⟩
  · rw [same]
    rcases system with ⟨place, locals, child, control, ready, output, error, start, token,
      clock, table, log⟩
    cases here
    exact .stutter
  · rw [changed]
    exact .observe .elsewhere stage (.inl rfl) controlled fresh alive

theorem watch_gateCancellation (here : system.place = .gateCancellation)
    (delivers : Bool) :
    WatchStep config delivers system.watch (system.gateCancellation config).watch := by
  have stage : system.watch.stage = .elsewhere := by simp [System.watch, here, Place.stage]
  unfold System.gateCancellation
  rcases observeCancellation_cases config system with
    same | ⟨fresh, alive, controlled, _, changed⟩
  · rw [same]
    dsimp only
    split
    next => exact .enter stage
    next =>
      rcases system with ⟨place, locals, child, control, ready, output, error, start,
        token, clock, table, log⟩
      cases here
      exact .stutter
  · rw [changed]
    exact .observe .sending stage (.inr rfl) controlled fresh alive

theorem watch_writeStart (here : system.place = .writeStart) (delivers : Bool) :
    WatchStep config delivers system.watch (system.writeStart config answer).watch := by
  rcases system with ⟨place, locals, child, control, ready, output, error, start, token,
    clock, table, log⟩
  cases here
  unfold System.writeStart
  split
  next => exact .stutter
  next => exact .enter rfl
  next =>
    split
    next =>
      split
      next => exact .release rfl
      next =>
        split
        next => exact .enter rfl
        next => exact .stutter
    next => exact .enter rfl

/-- The end of a pass. -/
theorem watch_finishPass {site : PassSite} {pass : SignalPass} {result : SignalResult}
    (here : system.place = .signalling site pass) {delivers : Bool}
    (delivered : site = .cancellation → delivers = result.leaderSignaled) :
    WatchStep config delivers system.watch (system.finishPass site result).watch := by
  rcases system with ⟨place, locals, child, control, ready, output, error, start, token,
    clock, table, log⟩
  cases here
  cases site with
  | cancellation =>
      cases delivered rfl
      exact .signalled rfl
  | escalation => exact .escalated rfl
  | cleanupTerm => exact .termed rfl
  | cleanupKill => exact .killed rfl
  | deadlineKill => exact .deadlineKilled rfl
  | finalKill => exact .finalKilled rfl

theorem watch_signalling {site : PassSite} {pass : SignalPass}
    (here : system.place = .signalling site pass) :
    WatchStep config (deliversCancellation system (.supervisor answer)) system.watch
      (system.signalling site pass answer).watch := by
  unfold System.signalling
  split
  next =>
    rcases system with ⟨place, locals, child, control, ready, output, error, start, token,
      clock, table, log⟩
    cases here
    exact .stutter
  next =>
    rcases system with ⟨place, locals, child, control, ready, output, error, start, token,
      clock, table, log⟩
    cases here
    exact .stutter
  next result finished =>
    apply watch_finishPass here
    intro cancellation
    subst cancellation
    simp only [deliversCancellation, here, finished]

theorem watch_startCleanup (here : system.place = .startCleanup) (delivers : Bool) :
    WatchStep config delivers system.watch (system.startCleanup config).watch := by
  have stage : system.watch.stage = .starting := by simp [System.watch, here, Place.stage]
  unfold System.startCleanup
  split
  next due =>
    simp only [Bool.and_eq_true, Bool.not_eq_true'] at due
    rcases due with ⟨⟨exited, controlled⟩, fresh⟩
    split
    next unattempted =>
      simp only [Bool.not_eq_true'] at unattempted
      exact .startTerm stage exited controlled fresh unattempted
    next attempted =>
      simp only [Bool.not_eq_true', Bool.not_eq_false] at attempted
      split
      next unforced =>
        simp only [Bool.not_eq_true'] at unforced
        exact .startTimed stage exited controlled fresh attempted unforced
      next forced =>
        simp only [Bool.not_eq_true', Bool.not_eq_false] at forced
        exact .startForced stage exited controlled fresh forced
  next => exact .proceed stage

theorem watch_continueCleanup (here : system.place = .continueCleanup) (delivers : Bool) :
    WatchStep config delivers system.watch (system.continueCleanup config).watch := by
  have stage : system.watch.stage = .continuing := by
    simp [System.watch, here, Place.stage]
  unfold System.continueCleanup
  split
  next due =>
    simp only [Bool.and_eq_true, Bool.not_eq_true'] at due
    rcases due with ⟨⟨⟨exited, _⟩, started⟩, incomplete⟩
    split
    next forced => exact .kill stage exited started incomplete forced
    next unforced =>
      exact .await stage exited started incomplete (eq_false_of_ne_true unforced)
  next => exact .settled stage

theorem watch_checkCleanupDeadline (here : system.place = .checkCleanupDeadline)
    (delivers : Bool) :
    WatchStep config delivers system.watch system.checkCleanupDeadline.watch := by
  have stage : system.watch.stage = .checking := by simp [System.watch, here, Place.stage]
  unfold System.checkCleanupDeadline
  split
  next expired =>
    split
    next unforced =>
      simp only [Bool.not_eq_true'] at unforced
      exact .late stage expired unforced
    next forced =>
      simp only [Bool.not_eq_true', Bool.not_eq_false] at forced
      exact .lateAgain stage expired forced
  next => exact .inTime stage

/-- Reaping changes nothing else of what is watched. -/
theorem watch_reap {target : Place} :
    ((system.reap.set { system.locals with childReaped := true }).goto target).watch =
      { system.watch with stage := target.stage, reaped := true } := by
  unfold System.reap
  split <;> rfl

theorem watch_reapControlled (here : system.place = .reapControlled) (delivers : Bool) :
    WatchStep config delivers system.watch (system.reapControlled config answer).watch := by
  have stage : system.watch.stage = .reaping := by simp [System.watch, here, Place.stage]
  unfold System.reapControlled
  split
  next due =>
    simp only [Bool.and_eq_true, Bool.not_eq_true'] at due
    split
    next => exact .stutter
    next =>
      rw [watch_reap]
      exact .reap stage due.1.1.1 due.1.2
  next => exact .retain stage

theorem watch_reapUncontrolled (here : system.place = .reapUncontrolled)
    (delivers : Bool) :
    WatchStep config delivers system.watch
      (system.reapUncontrolled config answer).watch := by
  have stage : system.watch.stage = .elsewhere := by simp [System.watch, here, Place.stage]
  unfold System.reapUncontrolled
  split
  next due =>
    simp only [Bool.and_eq_true, Bool.not_eq_true'] at due
    split
    next => exact .stutter
    next =>
      rw [watch_reap]
      exact .reapUncontrolled stage due.1.2
  next =>
    rcases system with ⟨place, locals, child, control, ready, output, error, start, token,
      clock, table, log⟩
    cases here
    exact .stutter

theorem watch_waiting {wait : GroupWait} (here : system.place = .waiting wait)
    (delivers : Bool) :
    WatchStep config delivers system.watch (system.waiting wait answer).watch := by
  rcases system with ⟨place, locals, child, control, ready, output, error, start, token,
    clock, table, log⟩
  cases here
  unfold System.waiting
  split
  · exact .stutter
  · exact .gone rfl
  · exact .remaining rfl

theorem watch_cleaningGroup {phase : CleanupPhase}
    (here : system.place = .cleaningGroup phase) (delivers : Bool) :
    WatchStep config delivers system.watch (system.cleaningGroup phase).watch := by
  rcases system with ⟨place, locals, child, control, ready, output, error, start, token,
    clock, table, log⟩
  cases here
  unfold System.cleaningGroup
  split
  · exact .stutter
  · exact .stutter
  next gone _ => exact .swept gone rfl

theorem watch_supervisorStep
    (taken : supervisorStep config answer system = some next) :
    WatchStep config (deliversCancellation system (.supervisor answer)) system.watch
      next.watch := by
  rcases system with ⟨place, locals, child, control, ready, output, error, start, token,
    clock, table, log⟩
  cases place with
  | checkSupport =>
      cases taken
      split
      · exact .stutter
      · exact .refuse _ rfl rfl
  | checkBeforeAdmission | checkBeforeInterpreter | checkBeforeFork =>
      cases taken
      unfold System.checkToken
      split
      · exact .refuse _ rfl rfl
      · exact .stutter
  | validateShape | admitInterpreter | makePipes =>
      cases taken
      unfold System.checkVerdict
      split
      · exact .stutter
      · exact .refuse _ rfl rfl
      · exact .refuse _ rfl rfl
  | admitResources =>
      cases taken
      unfold System.checkVerdict
      repeat' split
      · exact .stutter
      · exact .refuse _ rfl rfl
      · exact .refuse _ rfl rfl
      · exact .stutter
  | fork =>
      cases taken
      unfold System.fork
      split
      · exact .refuse _ rfl rfl
      · unfold System.forked
        split <;> exact .stutter
  | openPidfd =>
      cases taken
      unfold System.openPidfd
      split <;> exact .stutter
  | killChild errno =>
      cases taken
      exact .stutter
  | waitChild errno =>
      simp only [supervisorStep, System.waitChild] at taken
      split at taken
      · cases taken
        exact .stutter
      · split at taken <;> cases taken
        exact .refuse _ rfl rfl
  | loopHead | loopEnd =>
      cases taken
      split <;> exact .stutter
  | observeChildExit =>
      cases taken
      unfold System.observeChildExit
      repeat' split
      · exact .stutter
      · exact .stutter
      · exact .stutter
      · exact .exitObserved rfl
      · exact .stutter
  | observeCancellation =>
      cases taken
      exact watch_observeCancellation rfl _
  | startGate =>
      cases taken
      unfold System.startGate
      split
      · exact .stutter
      · exact .enter rfl
  | gateCancellation =>
      cases taken
      exact watch_gateCancellation rfl _
  | writeStart =>
      cases taken
      exact watch_writeStart rfl _
  | sendCancellationSignal =>
      cases taken
      unfold System.sendCancellationSignal
      split
      next due => exact .cancel rfl due
      next idle => exact .skip rfl (eq_false_of_ne_true idle)
  | signalling site pass =>
      cases taken
      exact watch_signalling rfl
  | cancellationClock =>
      cases taken
      exact .timed rfl
  | readClock =>
      cases taken
      exact .read rfl
  | escalate =>
      cases taken
      unfold System.escalate
      split
      next due =>
        simp only [Bool.and_eq_true, Bool.not_eq_true'] at due
        rcases due with ⟨⟨⟨attempted, unforced⟩, expired⟩, incomplete⟩
        exact .escalate rfl attempted unforced expired incomplete
      next => exact .wait rfl
  | startCleanup =>
      cases taken
      exact watch_startCleanup rfl _
  | continueCleanup =>
      cases taken
      exact watch_continueCleanup rfl _
  | beginWait =>
      cases taken
      exact .scan rfl
  | waiting wait =>
      cases taken
      exact watch_waiting rfl _
  | checkCleanupDeadline =>
      cases taken
      exact watch_checkCleanupDeadline rfl _
  | reapControlled =>
      cases taken
      exact watch_reapControlled rfl _
  | reapUncontrolled =>
      cases taken
      exact watch_reapUncontrolled rfl _
  | cleaningGroup phase =>
      cases taken
      exact watch_cleaningGroup rfl _
  | drainOutput =>
      cases taken
      unfold System.drainOutput
      repeat' split
      all_goals exact .stutter
  | drainError =>
      cases taken
      unfold System.drainError
      repeat' split
      all_goals exact .stutter
  | readControl =>
      cases taken
      unfold System.readControl
      repeat' split
      · exact .stutter
      · exact .confirm _ rfl
      all_goals exact .stutter
  | readReady =>
      cases taken
      unfold System.readReady
      repeat' split
      all_goals exact .stutter
  | verifyParentCleanup =>
      cases taken
      exact .conclude _ rfl cancelledAfter_classify
  | returned outcome => simp [supervisorStep] at taken
  | threw => simp [supervisorStep] at taken
  | terminated => simp [supervisorStep] at taken

/-- Every step of the system is a step of the watched part. -/
theorem watch_step {move : Move} (taken : step config move system = some next) :
    WatchStep config (deliversCancellation system move) system.watch next.watch := by
  cases stepped_of_step taken with
  | supervisor taken => exact watch_supervisorStep taken
  | child taken =>
      rw [watch_childStep taken]
      exact .stutter
  | tick duration => exact .tick duration
  | _ => exact .stutter

end Inversion

end PkgexecLinux.Supervisor

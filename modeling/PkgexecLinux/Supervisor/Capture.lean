import PkgexecLinux.Foundation.Runs
import PkgexecLinux.Supervisor.Drain

/-!
# Captured streams

The supervisor drains two pipes in the same loop in which it watches, reaps and
cleans up.  Each pipe, the string it is drained into and the flags that decide
about the capture are one view of the system; both streams are treated alike.
-/

namespace PkgexecLinux.Supervisor

open Foundation Kernel Process

/-- The capture of a stream in a result. -/
def Outcome.capture (stream : CaptureStream) : Outcome → Option (List UInt8)
  | .failedBeforeStart .. | .cancelledBeforeStart .. => none
  | .succeeded evidence | .failedAfterStart evidence .. | .cancelledAfterStart evidence .. =>
      match stream with
      | .output => evidence.output
      | .error => evidence.error

/-- The bytes that a move writes into the pipe of a stream. -/
def Move.writes (stream : CaptureStream) : Move → List UInt8
  | .output (.write bytes) => if stream = .output then bytes else []
  | .error (.write bytes) => if stream = .error then bytes else []
  | _ => []

/-- The bytes accepted by the pipe of a stream in the course of a schedule, in order. -/
def accepted (stream : CaptureStream) (moves : List Move) : List UInt8 :=
  moves.flatMap (Move.writes stream)

/-- Coarse place of the supervisor, as far as the streams depend on it. -/
inductive Stretch where
  | before
  | inside
  | left
  | finished (outcome : Outcome)
  deriving DecidableEq

def Place.stretch : Place → Stretch
  | .checkSupport | .checkBeforeAdmission | .validateShape | .admitResources
  | .checkBeforeInterpreter | .admitInterpreter | .checkBeforeFork | .makePipes
  | .fork => .before
  | .verifyParentCleanup => .left
  | .returned outcome => .finished outcome
  | _ => .inside

/-- The part of the system that decides about the capture of one stream. -/
structure StreamView where
  stretch : Stretch
  opened : Bool
  material : List UInt8
  failed : Bool
  pipe : Pipe

def System.view (system : System) (stream : CaptureStream) : StreamView where
  stretch := system.place.stretch
  opened := system.locals.opened stream
  material := system.locals.material stream
  failed := system.locals.captureFailed
  pipe := system.pipe stream

/-- Everything a step can do to a stream, with the bytes that it writes. -/
inductive StreamStep (view : StreamView) (stream : CaptureStream) :
    List UInt8 → StreamView → Prop where
  | stutter : StreamStep view stream [] view
  | refuse (outcome : Outcome) : view.stretch = .before ∨ view.stretch = .inside →
      outcome.capture stream = none →
      StreamStep view stream [] { view with stretch := .finished outcome }
  | fork : view.stretch = .before →
      StreamStep view stream [] { view with stretch := .inside, pipe := ⟨[], 1⟩ }
  | leave : view.stretch = .inside → view.opened = false →
      StreamStep view stream [] { view with stretch := .left }
  | conclude (outcome : Outcome) : view.stretch = .left →
      (∀ bytes, outcome.capture stream = some bytes →
        bytes = view.material ∧ view.failed = false) →
      StreamStep view stream [] { view with stretch := .finished outcome }
  | take (bytes rest : List UInt8) : view.stretch = .inside →
      view.pipe.buffer = bytes ++ rest →
      StreamStep view stream [] { view with
        material := view.material ++ bytes, pipe := { view.pipe with buffer := rest } }
  | ended : view.stretch = .inside → view.pipe.buffer = [] → view.pipe.writers = 0 →
      StreamStep view stream [] { view with opened := false }
  | failed (opened : Bool) : view.stretch = .inside →
      StreamStep view stream [] { view with opened, failed := true }
  | release (count : Nat) :
      StreamStep view stream [] { view with pipe := view.pipe.release count }
  | share : 0 < view.pipe.writers →
      StreamStep view stream [] { view with
        pipe := { view.pipe with writers := view.pipe.writers + 1 } }
  | accept (bytes : List UInt8) : 0 < view.pipe.writers →
      StreamStep view stream bytes { view with pipe := view.pipe.accept bytes }

section Inversion

variable {config : Config} {answer : Answer} {system next : System} {stream : CaptureStream}

theorem view_childStep {answer : ChildAnswer}
    (taken : childStep config answer system = some next) :
    StreamStep (system.view stream) stream [] (next.view stream) := by
  cases (childStep_effect taken).2 with
  | proceed child control ready start =>
      cases stream <;> exact .stutter
  | release child control ready start outputs errors =>
      cases stream with
      | output => exact .release outputs
      | error => exact .release errors

theorem view_observeCancellation (place : Place) (inside : system.place.stretch = place.stretch) :
    StreamStep (system.view stream) stream []
      (((system.observeCancellation config).goto place).view stream) := by
  have same : ((system.observeCancellation config).goto place).view stream =
      system.view stream := by
    unfold System.observeCancellation
    split <;> simp only [System.view, System.goto, System.set, inside] <;> rfl
  rw [same]
  exact .stutter

/-- One read of `drain_fd` on one stream, seen from either. -/
theorem view_drainFd {drained : CaptureStream} (here : system.place = drained.place) :
    StreamStep (system.view stream) stream [] ((system.drainFd answer drained).view stream) := by
  have spec := drainFd_spec system answer drained
  generalize system.drainFd answer drained = next at spec ⊢
  rcases system with ⟨place, locals, child, control, ready, output, error, start, token,
    clock, table, log⟩
  cases spec with
  | retry => exact .stutter
  | pass | throw => cases drained <;> cases here <;> exact .stutter
  | take bytes rest cut =>
      cases drained <;> cases here <;> cases stream
      · exact .take bytes rest rfl cut
      · exact .stutter
      · exact .stutter
      · exact .take bytes rest rfl cut
  | ended empty closed =>
      cases drained <;> cases here <;> cases stream
      · exact .ended rfl empty closed
      · exact .stutter
      · exact .stutter
      · exact .ended rfl empty closed
  | failed => cases drained <;> cases here <;> cases stream <;> exact .failed _ rfl

/-- The loop is left only when both streams are closed. -/
theorem closed_of_not_unfinished (done : ¬system.unfinished = true) :
    system.locals.opened stream = false := by
  simp only [System.unfinished, Bool.not_eq_true, Bool.or_eq_false_iff] at done
  cases stream with
  | output => exact done.1.1.1.2
  | error => exact done.1.1.2

theorem started_of_capture {outcome : Outcome} {bytes : List UInt8}
    (captured : outcome.capture stream = some bytes) : outcome.started = true := by
  cases outcome with
  | failedBeforeStart | cancelledBeforeStart => cases captured
  | succeeded | failedAfterStart | cancelledAfterStart => rfl

theorem capture_startedOutcome {locals : Locals} {cleanupVerified : Bool} {bytes : List UInt8}
    (captured : (startedOutcome config locals cleanupVerified).capture stream = some bytes) :
    bytes = locals.material stream ∧ locals.captureFailed = false := by
  have evidence : (startedOutcome config locals cleanupVerified).capture stream =
      match stream with
      | .output => (startedEvidence config locals cleanupVerified).output
      | .error => (startedEvidence config locals cleanupVerified).error := by
    unfold startedOutcome
    dsimp only
    repeat' split
    all_goals rfl
  rw [evidence] at captured
  cases stream <;>
    simp_all [startedEvidence, Locals.material]

/-- A capture in the classified result is what has been drained, and no read failed. -/
theorem capture_classify {locals : Locals} {mountCleaned : Bool} {bytes : List UInt8}
    (captured : (classify config locals mountCleaned).capture stream = some bytes) :
    bytes = locals.material stream ∧ locals.captureFailed = false := by
  simp only [classify] at captured
  split at captured
  next =>
    have started := started_of_capture captured
    simp [started_recordOutcome] at started
  next =>
    split at captured
    · split at captured <;> cases captured
    · split at captured
      · split at captured <;> cases captured
      · exact capture_startedOutcome captured

theorem view_supervisorStep (taken : supervisorStep config answer system = some next) :
    StreamStep (system.view stream) stream [] (next.view stream) := by
  rcases system with ⟨place, locals, child, control, ready, output, error, start, token,
    clock, table, log⟩
  cases place with
  | checkSupport =>
      cases taken
      split
      · exact .stutter
      · exact .refuse _ (.inl rfl) rfl
  | checkBeforeAdmission | checkBeforeInterpreter | checkBeforeFork =>
      cases taken
      unfold System.checkToken
      split
      · exact .refuse _ (.inl rfl) rfl
      · exact .stutter
  | validateShape | admitInterpreter | makePipes =>
      cases taken
      unfold System.checkVerdict
      split
      · exact .stutter
      · exact .refuse _ (.inl rfl) rfl
      · exact .refuse _ (.inl rfl) rfl
  | admitResources =>
      cases taken
      unfold System.checkVerdict
      repeat' split
      · exact .stutter
      · exact .refuse _ (.inl rfl) rfl
      · exact .refuse _ (.inl rfl) rfl
      · exact .stutter
  | fork =>
      cases taken
      unfold System.fork
      split
      · exact .refuse _ (.inl rfl) rfl
      · unfold System.forked
        cases stream <;> split <;> exact .fork rfl
  | openPidfd =>
      cases taken
      unfold System.openPidfd
      split <;> cases stream <;> exact .stutter
  | waitChild errno =>
      simp only [supervisorStep, System.waitChild] at taken
      split at taken
      · cases taken
        exact .stutter
      · split at taken <;> cases taken
        cases stream <;> exact .refuse _ (.inr rfl) rfl
  | loopHead | loopEnd =>
      cases taken
      split
      next => exact .stutter
      next done => exact .leave rfl (closed_of_not_unfinished done)
  | observeChildExit =>
      cases taken
      unfold System.observeChildExit
      repeat' split
      all_goals cases stream <;> exact .stutter
  | observeCancellation =>
      cases taken
      exact view_observeCancellation .startGate rfl
  | startGate =>
      cases taken
      unfold System.startGate
      split <;> exact .stutter
  | gateCancellation =>
      cases taken
      unfold System.gateCancellation
      dsimp only
      split
      · exact view_observeCancellation .sendCancellationSignal rfl
      · exact view_observeCancellation .writeStart rfl
  | writeStart =>
      cases taken
      unfold System.writeStart
      repeat' split
      all_goals cases stream <;> exact .stutter
  | sendCancellationSignal =>
      cases taken
      unfold System.sendCancellationSignal
      split <;> cases stream <;> exact .stutter
  | signalling site pass =>
      cases taken
      unfold System.signalling
      split
      · exact .stutter
      · cases stream <;> exact .stutter
      · cases site <;> cases stream <;> exact .stutter
  | killChild | cancellationClock | readClock | beginWait =>
      cases taken
      cases stream <;> exact .stutter
  | escalate =>
      cases taken
      unfold System.escalate
      split <;> cases stream <;> exact .stutter
  | startCleanup =>
      cases taken
      unfold System.startCleanup
      repeat' split
      all_goals cases stream <;> exact .stutter
  | continueCleanup =>
      cases taken
      unfold System.continueCleanup
      repeat' split
      all_goals cases stream <;> exact .stutter
  | waiting wait =>
      cases taken
      unfold System.waiting
      split <;> cases stream <;> exact .stutter
  | checkCleanupDeadline =>
      cases taken
      unfold System.checkCleanupDeadline
      repeat' split
      all_goals cases stream <;> exact .stutter
  | reapControlled =>
      cases taken
      unfold System.reapControlled System.reap
      repeat' split
      all_goals cases stream <;> exact .stutter
  | reapUncontrolled =>
      cases taken
      unfold System.reapUncontrolled System.reap
      repeat' split
      all_goals cases stream <;> exact .stutter
  | cleaningGroup phase =>
      cases taken
      unfold System.cleaningGroup
      split <;> cases stream <;> exact .stutter
  | drainOutput =>
      cases taken
      rw [System.drainOutput_eq]
      exact view_drainFd rfl
  | drainError =>
      cases taken
      rw [System.drainError_eq]
      exact view_drainFd rfl
  | readControl =>
      cases taken
      unfold System.readControl
      repeat' split
      all_goals cases stream <;> exact .stutter
  | readReady =>
      cases taken
      unfold System.readReady
      repeat' split
      all_goals cases stream <;> exact .stutter
  | verifyParentCleanup =>
      cases taken
      exact .conclude _ rfl fun bytes captured => capture_classify captured
  | returned outcome => simp [supervisorStep] at taken
  | threw => simp [supervisorStep] at taken
  | terminated => simp [supervisorStep] at taken

/-- Every step of the system is a step of each stream. -/
theorem view_step {move : Move} (taken : step config move system = some next) :
    StreamStep (system.view stream) stream (move.writes stream) (next.view stream) := by
  cases stepped_of_step taken with
  | supervisor taken => exact view_supervisorStep taken
  | child taken => exact view_childStep taken
  | kill signal => cases stream <;> exact .release _
  | output moved =>
      rcases streamStep_spec moved with
        ⟨bytes, rfl, held, rfl⟩ | ⟨rfl, held, rfl⟩ | ⟨rfl, rfl⟩ <;> cases stream
      · exact .accept bytes held
      · exact .stutter
      · exact .share held
      · exact .stutter
      · exact .release 1
      · exact .stutter
  | error moved =>
      rcases streamStep_spec moved with
        ⟨bytes, rfl, held, rfl⟩ | ⟨rfl, held, rfl⟩ | ⟨rfl, rfl⟩ <;> cases stream
      · exact .stutter
      · exact .accept bytes held
      · exact .stutter
      · exact .share held
      · exact .stutter
      · exact .release 1
  | _ => cases stream <;> exact .stutter

end Inversion

/-! ## Invariants -/

/-- Nothing that the pipe has accepted is lost: it has been drained, or is still in the
pipe; and a stream that was closed without a failure is at its end. -/
structure StreamView.Whole (view : StreamView) (stream : CaptureStream)
    (written : List UInt8) : Prop where
  fresh : view.stretch = .before → view.opened = true ∧ view.pipe = ⟨[], 0⟩
  drained : written = view.material ++ view.pipe.buffer
  closed : view.opened = false →
    view.failed = true ∨ view.pipe.buffer = [] ∧ view.pipe.writers = 0
  left : view.stretch = .left → view.opened = false
  concluded : ∀ outcome bytes, view.stretch = .finished outcome →
    outcome.capture stream = some bytes →
    bytes = view.material ∧ view.failed = false ∧ view.opened = false

section Steps

variable {view next : StreamView} {stream : CaptureStream} {written bytes : List UInt8}

theorem StreamView.Whole.step (whole : view.Whole stream written)
    (stepped : StreamStep view stream bytes next) : next.Whole stream (written ++ bytes) where
  fresh := by
    have fresh := whole.fresh
    cases stepped with
    | release count =>
        intro before
        rcases fresh before with ⟨opened, empty⟩
        exact ⟨opened, by simp [empty, Pipe.release]⟩
    | share held | accept _ held =>
        intro before
        simp [(fresh before).2] at held
    | take bytes rest inside | ended inside | failed opened inside =>
        intro before
        exact absurd (inside.symm.trans before) (by simp)
    | stutter => exact fresh
    | refuse | fork | leave | conclude => intro before; cases before
  drained := by
    have drained := whole.drained
    cases stepped with
    | fork before =>
        rw [drained, (whole.fresh before).2]
        simp
    | take bytes rest inside cut =>
        rw [drained, cut]
        simp
    | accept bytes held =>
        rw [drained]
        simp [Pipe.accept]
    | stutter | refuse | leave | conclude | ended | failed | release | share =>
        simpa [Pipe.release] using drained
  closed := by
    have closed := whole.closed
    cases stepped with
    | fork before =>
        intro shut
        have shut : view.opened = false := shut
        simp [(whole.fresh before).1] at shut
    | take bytes rest inside cut =>
        intro shut
        rcases closed shut with failed | ⟨empty, unwritten⟩
        · exact .inl failed
        · rw [cut] at empty
          exact .inr ⟨(List.append_eq_nil_iff.mp empty).2, unwritten⟩
    | ended inside empty unwritten => exact fun _ => .inr ⟨empty, unwritten⟩
    | failed => exact fun _ => .inl rfl
    | release count =>
        intro shut
        rcases closed shut with failed | ⟨empty, unwritten⟩
        · exact .inl failed
        · exact .inr ⟨empty, by simp [Pipe.release, unwritten]⟩
    | share held | accept _ held =>
        intro shut
        rcases closed shut with failed | ⟨_, unwritten⟩
        · exact .inl failed
        · simp [unwritten] at held
    | stutter | refuse | leave | conclude => exact closed
  left := by
    have left := whole.left
    cases stepped with
    | leave inside shut => exact fun _ => shut
    | take bytes rest inside | ended inside | failed opened inside =>
        intro now
        exact absurd (inside.symm.trans now) (by simp)
    | refuse | fork | conclude => exact fun now => nomatch now
    | stutter | release | share | accept => exact left
  concluded := by
    have concluded := whole.concluded
    cases stepped with
    | refuse outcome either uncaptured =>
        intro other bytes same captured
        cases same
        rw [uncaptured] at captured
        cases captured
    | conclude outcome left evidence =>
        intro other bytes same captured
        cases same
        rcases evidence bytes captured with ⟨material, unfailed⟩
        exact ⟨material, unfailed, whole.left left⟩
    | take bytes rest inside | ended inside | failed opened inside =>
        intro outcome bytes now
        exact absurd (inside.symm.trans now) (by simp)
    | fork | leave => intro outcome bytes now; cases now
    | stutter | release | share | accept => exact concluded

/-- A failed capture stays failed. -/
theorem failed_of_step (stepped : StreamStep view stream bytes next)
    (failed : view.failed = true) : next.failed = true := by
  cases stepped with
  | failed => rfl
  | stutter | refuse | fork | leave | conclude | take | ended | release | share | accept =>
      exact failed

end Steps

section Runs

variable {config : Config} {token : Bool} {clock : Nat} {system : System} {moves : List Move}
variable {stream : CaptureStream} {bytes : List UInt8}

theorem accepted_append (stream : CaptureStream) (history : List Move) (move : Move) :
    accepted stream (history ++ [move]) = accepted stream history ++ move.writes stream := by
  simp [accepted]

theorem whole_of_replay (stream : CaptureStream)
    (played : replay (step config) unrestricted moves (config.initial token clock) =
      some system) :
    (system.view stream).Whole stream (accepted stream moves) := by
  refine replay_history (fun history system =>
    (system.view stream).Whole stream (accepted stream history)) ?_ played ?_
  · intro history system move next whole _ taken
    rw [accepted_append]
    exact whole.step (view_step taken)
  · cases stream <;> constructor <;>
      simp [System.view, Config.initial, Locals.initial, Place.stretch, System.pipe,
        Locals.opened, Locals.material, accepted]

/-- In every schedule, a capture in the returned result holds exactly the bytes that the
pipe of its stream has accepted, in order, and the loop was left only when no write end
of that pipe was open. -/
theorem capture_complete {outcome : Outcome}
    (played : replay (step config) unrestricted moves (config.initial token clock) =
      some system)
    (returned : system.outcome? = some outcome)
    (captured : outcome.capture stream = some bytes) :
    bytes = accepted stream moves ∧
      ∀ early late middle, moves = early ++ late →
        replay (step config) unrestricted early (config.initial token clock) = some middle →
        middle.place = .verifyParentCleanup → (middle.pipe stream).writers = 0 := by
  have finished : (system.view stream).stretch = .finished outcome := by
    simp [System.view, System.place_of_outcome returned, Place.stretch]
  have whole := whole_of_replay stream played
  rcases whole.concluded outcome bytes finished captured with ⟨material, unfailed, shut⟩
  constructor
  · rcases whole.closed shut with failed | ⟨empty, -⟩
    · simp [unfailed] at failed
    · rw [whole.drained, material, empty, List.append_nil]
  · intro early late middle cut reached leaving
    have wholeThen := whole_of_replay stream reached
    have closed := wholeThen.left (by simp [System.view, leaving, Place.stretch])
    rcases wholeThen.closed closed with failed | ⟨-, unwritten⟩
    · rw [cut, replay_append, reached] at played
      have still : (system.view stream).failed = true := by
        refine (reaches_of_replay played).preserves
          (fun system => (system.view stream).failed = true) ?_ failed
        intro system move next failed _ taken
        exact failed_of_step (view_step taken) failed
      simp [unfailed] at still
    · exact unwritten

end Runs

/-- The program writes on both streams, is read byte by byte, writes more and exits; a
descendant writes on the error stream before the streams are closed. -/
def talking : List Move :=
  supervised 9 ++ advanced 6 ++ supervised 24 ++ advanced 3 ++
    [.output (.write [65, 66]), .error (.write [67])] ++ supervised 6 ++
    [.supervisor (.count 1), .output (.write [68]), .child (.exit 0)] ++ supervised 2 ++
    [.error (.write [69]), .output .close, .error .close] ++ supervised 23

theorem capture_complete_talking :
    ∃ system outcome,
      replay (step (Config.plain false 0)) unrestricted talking
        ((Config.plain false 0).initial false 0) = some system ∧
      system.outcome? = some outcome ∧
      outcome.capture .output = some [65, 66, 68] ∧ accepted .output talking = [65, 66, 68] := by
  have played : (replay (step (Config.plain false 0)) unrestricted talking
      ((Config.plain false 0).initial false 0)).any
      (fun system => system.outcome?.any fun outcome =>
        outcome.capture .output == some [65, 66, 68]) = true := by
    decide
  rcases (Option.any_eq_true _ _).mp played with ⟨system, reached, test⟩
  rcases (Option.any_eq_true _ _).mp test with ⟨outcome, returned, captured⟩
  have captured : outcome.capture .output = some [65, 66, 68] := by simpa using captured
  exact ⟨system, outcome, reached, returned, captured,
    (capture_complete reached returned captured).1.symm⟩

end PkgexecLinux.Supervisor

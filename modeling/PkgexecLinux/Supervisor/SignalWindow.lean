import PkgexecLinux.Supervisor.Cancellation
import PkgexecLinux.Supervisor.StartEvidence

/-!
# The start gate and the window without signals

In which order the supervisor reads the ready byte, observes the cancellation and
writes the start byte, and between which of these moments it makes no pass of
signals.  What has happened is read off the transcript of a run, not off the
supervisor's flags.
-/

namespace PkgexecLinux.Supervisor

open Foundation Kernel Process

variable {config : Config} {token : Bool} {clock : Nat} {system next : System}

/-! ## What a step does at the gate -/

/-- The call does its work. -/
def answered : Answer → Bool
  | .interrupted | .refused _ => false
  | .done | .count _ | .exhausted => true

namespace System

/-- The step puts the start byte into its pipe. -/
def writesStart (system : System) : Move → Bool
  | .supervisor answer =>
      system.place == .writeStart && system.locals.startOpen &&
        system.child.phase.readsStart && answered answer
  | _ => false

/-- The step takes a ready byte out of its pipe. -/
def receivesReady (system : System) : Move → Bool
  | .supervisor answer =>
      system.place == .readReady && system.locals.readyOpen && answered answer &&
        system.ready.buffer.head? == some 1
  | _ => false

/-- The step observes the requested token. -/
def observesToken (config : Config) (system : System) : Move → Bool
  | .supervisor _ =>
      (system.place == .observeCancellation || system.place == .gateCancellation) &&
        config.controlled && !system.locals.cancellationObserved &&
        !system.locals.childExited && system.token
  | _ => false

end System

/-- The flags of the gate record what the steps at the gate have done. -/
structure Marked (config : Config) (system : System) (move : Move) (next : System) : Prop where
  released : next.locals.startReleased =
    (system.locals.startReleased || system.writesStart move)
  ready : next.locals.readySeen = (system.locals.readySeen || system.receivesReady move)
  observed : next.locals.cancellationObserved =
    (system.locals.cancellationObserved || system.observesToken config move)

/-- Places at which nothing happens at the gate. -/
def Place.besideGate : Place → Bool
  | .writeStart | .readReady | .observeCancellation | .gateCancellation => false
  | _ => true

theorem marked_beside {answer : Answer} (beside : system.place.besideGate = true)
    (released : next.locals.startReleased = system.locals.startReleased)
    (ready : next.locals.readySeen = system.locals.readySeen)
    (observed : next.locals.cancellationObserved = system.locals.cancellationObserved) :
    Marked config system (.supervisor answer) next := by
  have apart : system.place ≠ .writeStart ∧ system.place ≠ .readReady ∧
      system.place ≠ .observeCancellation ∧ system.place ≠ .gateCancellation := by
    refine ⟨?_, ?_, ?_, ?_⟩ <;> intro here <;> simp [here, Place.besideGate] at beside
  constructor
  · simp [System.writesStart, apart.1, released]
  · simp [System.receivesReady, apart.2.1, ready]
  · simp [System.observesToken, apart.2.2.1, apart.2.2.2, observed]

theorem marked_writeStart {answer : Answer} (here : system.place = .writeStart) :
    Marked config system (.supervisor answer) (system.writeStart config answer) := by
  have writes : system.writesStart (.supervisor answer) =
      (system.locals.startOpen && system.child.phase.readsStart && answered answer) := by
    simp [System.writesStart, here]
  have noReady : system.receivesReady (.supervisor answer) = false := by
    simp [System.receivesReady, here]
  have noToken : system.observesToken config (.supervisor answer) = false := by
    simp [System.observesToken, here]
  unfold System.writeStart
  split
  next => constructor <;> simp [writes, noReady, noToken, answered]
  next => constructor <;> simp [writes, noReady, noToken, answered, System.goto, System.set]
  next notInterrupted notRefused =>
    have works : answered answer = true := by
      cases answer with
      | interrupted => exact absurd rfl notInterrupted
      | refused errno => exact absurd rfl (notRefused errno)
      | done | count | exhausted => rfl
    split
    next opened =>
      split
      next reads => constructor <;> simp [writes, noReady, noToken, opened, reads, works]
      next deaf =>
        split <;> constructor <;>
          simp [writes, noReady, noToken, eq_false_of_ne_true deaf, System.goto, System.set]
    next shut =>
      constructor <;>
        simp [writes, noReady, noToken, eq_false_of_ne_true shut, System.goto]

theorem transfer_one (answer : Answer) : answer.transfer 1 = 1 := by
  cases answer with
  | count bytes => exact Nat.max_eq_left (Nat.min_le_right bytes 1)
  | done | interrupted | refused | exhausted => rfl

/-- A read of one byte takes the first byte of the pipe. -/
theorem read_one (pipe : Pipe) {answer : Answer} (works : answered answer = true) :
    pipe.read 1 answer =
      match pipe.buffer with
      | [] => if pipe.writers = 0 then (.endOfFile, pipe) else (.again, pipe)
      | byte :: rest => (.data [byte], { pipe with buffer := rest }) := by
  rcases pipe with ⟨buffer, writers⟩
  cases buffer with
  | nil => cases answer <;> simp_all [answered, Pipe.read, Pipe.readReady]
  | cons byte rest =>
      cases answer with
      | interrupted | refused => cases works
      | done | exhausted | count => simp [Pipe.read, Pipe.readReady, transfer_one]

theorem marked_readReady {answer : Answer} (here : system.place = .readReady) :
    Marked config system (.supervisor answer) (system.readReady answer) := by
  have receives : system.receivesReady (.supervisor answer) =
      (system.locals.readyOpen && answered answer && system.ready.buffer.head? == some 1) := by
    simp [System.receivesReady, here]
  have noStart : system.writesStart (.supervisor answer) = false := by
    simp [System.writesStart, here]
  have noToken : system.observesToken config (.supervisor answer) = false := by
    simp [System.observesToken, here]
  rw [System.readReady]
  split
  next opened =>
    cases works : answered answer with
    | false =>
        cases answer with
        | interrupted =>
            constructor <;> simp [receives, noStart, noToken, works, Pipe.read]
        | refused errno =>
            constructor <;>
              simp [receives, noStart, noToken, works, Pipe.read, System.goto, System.set]
        | done | count | exhausted => cases works
    | true =>
        rw [read_one system.ready works]
        cases bytes : system.ready.buffer with
        | nil =>
            dsimp only
            split_ifs <;> constructor <;>
              simp [receives, noStart, noToken, bytes, System.goto, System.set]
        | cons byte rest =>
            constructor <;> simp [receives, noStart, noToken, bytes, opened, works]
  next shut =>
    constructor <;>
      simp [receives, noStart, noToken, eq_false_of_ne_true shut, System.goto]

/-- `observe_cancellation`, wherever it is called. -/
theorem observed_observeCancellation (config : Config) (answer : Answer)
    (here : system.place = .observeCancellation ∨ system.place = .gateCancellation) :
    (system.observeCancellation config).locals.cancellationObserved =
        (system.locals.cancellationObserved ||
          system.observesToken config (.supervisor answer)) ∧
      (system.observeCancellation config).locals.startReleased = system.locals.startReleased ∧
      (system.observeCancellation config).locals.readySeen = system.locals.readySeen := by
  have observes : system.observesToken config (.supervisor answer) =
      (config.controlled && !system.locals.cancellationObserved &&
        !system.locals.childExited && system.token) := by
    rcases here with here | here <;> simp [System.observesToken, here]
  rw [observes]
  rw [System.observeCancellation]
  split
  next due => simp [due, System.set]
  next idle => simp [eq_false_of_ne_true idle]

theorem marked_observeCancellation {answer : Answer}
    (here : system.place = .observeCancellation) :
    Marked config system (.supervisor answer)
      ((system.observeCancellation config).goto .startGate) := by
  obtain ⟨observed, released, ready⟩ := observed_observeCancellation config answer (.inl here)
  constructor
  · simp [System.writesStart, here, System.goto, released]
  · simp [System.receivesReady, here, System.goto, ready]
  · exact observed

theorem marked_gateCancellation {answer : Answer} (here : system.place = .gateCancellation) :
    Marked config system (.supervisor answer) (system.gateCancellation config) := by
  obtain ⟨observed, released, ready⟩ := observed_observeCancellation config answer (.inr here)
  have same : (system.gateCancellation config).locals =
      (system.observeCancellation config).locals := by
    unfold System.gateCancellation
    dsimp only
    split <;> rfl
  constructor
  · simp [System.writesStart, here, same, released]
  · simp [System.receivesReady, here, same, ready]
  · rw [same]
    exact observed

theorem marked_supervisorStep {answer : Answer}
    (taken : supervisorStep config answer system = some next) :
    Marked config system (.supervisor answer) next := by
  rcases system with ⟨place, locals, child, control, ready, output, error, start, token,
    clock, table, log⟩
  cases place with
  | writeStart =>
      cases taken
      exact marked_writeStart rfl
  | readReady =>
      cases taken
      exact marked_readReady rfl
  | observeCancellation =>
      cases taken
      exact marked_observeCancellation rfl
  | gateCancellation =>
      cases taken
      exact marked_gateCancellation rfl
  | returned | threw | terminated => cases taken
  | waitChild errno =>
      simp only [supervisorStep, System.waitChild] at taken
      repeat' split at taken
      all_goals cases taken
      all_goals exact marked_beside rfl rfl rfl rfl
  | killChild errno =>
      cases taken
      exact marked_beside rfl rfl rfl rfl
  | checkSupport | loopHead | loopEnd =>
      cases taken
      split <;> exact marked_beside rfl rfl rfl rfl
  | _ =>
      cases taken
      simp only [System.checkToken, System.checkVerdict, System.fork, System.forked,
        System.openPidfd, System.observeChildExit, System.startGate,
        System.sendCancellationSignal, System.signalling, System.finishPass,
        System.cancellationClock, System.readClock, System.escalate, System.startCleanup,
        System.continueCleanup, System.beginWait, System.waiting, System.checkCleanupDeadline,
        System.reapControlled, System.reapUncontrolled, System.reap, System.cleaningGroup,
        System.drainOutput, System.drainError, System.readControl, System.verifyParentCleanup]
      repeat' split
      all_goals exact marked_beside rfl rfl rfl rfl

theorem marked_step {move : Move} (taken : step config move system = some next) :
    Marked config system move next := by
  cases stepped_of_step taken with
  | supervisor taken => exact marked_supervisorStep taken
  | child taken =>
      rcases childStep_frame taken with ⟨_, _, _, _, _, _, rfl⟩
      constructor <;> simp [System.writesStart, System.receivesReady, System.observesToken]
  | kill signal =>
      constructor <;>
        simp [System.writesStart, System.receivesReady, System.observesToken, System.endChild]
  | reapElsewhere =>
      constructor <;>
        simp [System.writesStart, System.receivesReady, System.observesToken, System.setPhase]
  | _ =>
      constructor <;> simp [System.writesStart, System.receivesReady, System.observesToken]

/-- Only the start write adds to the start pipe; the child takes from its front. -/
theorem start_gateStep {place : Place} {move : Move} {gate after : Gate}
    (ordered : gate.Ordered) (stepped : GateStep place move gate after) :
    (gate.startReleased = false ∧ after.startReleased = true ∧ after.start = gate.start ++ [1]) ∨
      after.startReleased = gate.startReleased ∧ after.start <:+ gate.start := by
  cases stepped with
  | release releasing => exact .inl ⟨(ordered.gating (.inr releasing)).2, rfl, rfl⟩
  | started rest _ bytes =>
      right
      rw [bytes]
      exact ⟨rfl, List.suffix_cons 1 rest⟩
  | unstarted start _ given =>
      right
      rcases given with ⟨_, same⟩ | ⟨byte, bytes, _⟩ | ⟨_, _, same⟩
      · rw [same]
        exact ⟨rfl, List.suffix_refl _⟩
      · rw [bytes]
        exact ⟨rfl, List.suffix_cons byte start⟩
      · rw [same]
        exact ⟨rfl, List.suffix_refl _⟩
  | _ => exact .inr ⟨rfl, List.suffix_refl _⟩

/-! ## The order of events -/

/-- The transcript entry writes the start byte. -/
def isStartWrite (entry : System × Move) : Bool := entry.1.writesStart entry.2

/-- The transcript entry receives a ready byte. -/
def isReadyByte (entry : System × Move) : Bool := entry.1.receivesReady entry.2

/-- The transcript entry observes the cancellation. -/
def isObservation (config : Config) (entry : System × Move) : Bool :=
  entry.1.observesToken config entry.2

/-- What has happened at the gate, and in which order. -/
structure Chronicle (config : Config) (history : List (System × Move)) (system : System) :
    Prop where
  released : system.locals.startReleased = history.any isStartWrite
  ready : system.locals.readySeen = history.any isReadyByte
  observed : system.locals.cancellationObserved = history.any (isObservation config)
  once : history.countP isStartWrite ≤ 1
  unobserved : history.Pairwise fun earlier later =>
    isObservation config earlier = true → isStartWrite later = false
  afterReady : ∀ early entry late, history = early ++ entry :: late →
    isStartWrite entry = true → early.any isReadyByte = true

/-- At the gate the ready byte has been read, the start byte has not been written and no
cancellation has been observed. -/
theorem gate_of_writesStart {move : Move} (sound : system.GateSound)
    (writes : system.writesStart move = true) :
    system.locals.readySeen = true ∧ system.locals.startReleased = false ∧
      system.locals.cancellationObserved = false := by
  have here : system.place = .writeStart := by
    cases move with
    | supervisor answer =>
        simp only [System.writesStart, Bool.and_eq_true, beq_iff_eq] at writes
        exact writes.1.1.1
    | _ => cases writes
  have region : system.gate.region = .releasing := by simp [System.gate, here, Place.region]
  have gating := sound.1.gating (.inr region)
  exact ⟨gating.1, gating.2, sound.1.releasing region⟩

/-- The start pipe grows exactly by the steps that write the start byte, and by that byte. -/
theorem start_step {move : Move} (sound : system.GateSound)
    (taken : step config move system = some next) :
    if system.writesStart move then next.start = system.start ++ [1]
    else next.start <:+ system.start := by
  have released : next.gate.startReleased =
      (system.gate.startReleased || system.writesStart move) := (marked_step taken).released
  rcases start_gateStep sound.1 (gate_step taken) with ⟨before, after, grown⟩ | ⟨same, kept⟩
  · rw [before, after, Bool.false_or] at released
    rw [if_pos released.symm]
    exact grown
  · have silent : system.writesStart move = false := by
      by_contra writes
      have writes := eq_true_of_ne_false writes
      have withheld : system.gate.startReleased = false := (gate_of_writesStart sound writes).2.1
      rw [same, withheld, writes] at released
      cases released
    rw [silent, if_neg (by decide)]
    exact kept

theorem Chronicle.step {history : List (System × Move)} {move : Move}
    (chronicle : Chronicle config history system) (sound : system.GateSound)
    (taken : step config move system = some next) :
    Chronicle config (history ++ [(system, move)]) next := by
  have marked := marked_step taken
  have gate : isStartWrite (system, move) = true →
      history.any isReadyByte = true ∧ history.any isStartWrite = false ∧
        history.any (isObservation config) = false := by
    intro writes
    obtain ⟨ready, released, observed⟩ := gate_of_writesStart sound writes
    rw [chronicle.ready] at ready
    rw [chronicle.released] at released
    rw [chronicle.observed] at observed
    exact ⟨ready, released, observed⟩
  refine ⟨?_, ?_, ?_, ?_, ?_, ?_⟩
  · rw [marked.released, chronicle.released]
    simp [isStartWrite]
  · rw [marked.ready, chronicle.ready]
    simp [isReadyByte]
  · rw [marked.observed, chronicle.observed]
    simp [isObservation]
  · rw [List.countP_append, List.countP_singleton]
    split
    next writes =>
      have none : history.countP isStartWrite = 0 := by
        rw [List.countP_eq_zero]
        exact List.any_eq_false.mp (gate writes).2.1
      omega
    next => exact chronicle.once
  · refine List.pairwise_append.mpr ⟨chronicle.unobserved, List.pairwise_singleton _ _, ?_⟩
    intro earlier member later isLast observation
    rw [List.mem_singleton.mp isLast]
    by_contra writes
    have none := List.any_eq_false.mp (gate (by simpa using writes)).2.2 earlier member
    exact none observation
  · intro early entry late split writes
    rcases List.eq_nil_or_concat late with rfl | ⟨late, last, rfl⟩
    · obtain ⟨rfl, same⟩ := List.append_inj' split rfl
      cases same
      exact (gate writes).1
    · rw [List.concat_eq_append, ← List.cons_append, ← List.append_assoc] at split
      obtain ⟨before, _⟩ := List.append_inj' split rfl
      exact chronicle.afterReady early entry late before writes

theorem chronicle_initial (config : Config) (token : Bool) (clock : Nat) :
    Chronicle config [] (config.initial token clock) := by
  refine ⟨rfl, rfl, rfl, Nat.zero_le 1, .nil, ?_⟩
  intro early entry late split
  simp at split

/-! ## The window without signals -/

/-- Stages of the cleanup, which begins with the observed exit of the leader. -/
@[grind] def Stage.afterExit : Stage → Bool
  | .passing .cleanupTerm | .passing .cleanupKill | .passing .deadlineKill
  | .passing .finalKill | .beginning | .scanning | .checking => true
  | _ => false

/-- Why a pass is made: the cancellation has been observed and no released start is
unconfirmed, or the leader has exited. -/
structure Watch.Windowed (watch : Watch) : Prop where
  attempted : watch.attempted = true ∨ watch.stage = .passing .cancellation →
    watch.observed = true ∧ (watch.startReleased = true → watch.execConfirmed = true)
  escalating : watch.stage = .passing .escalation → watch.attempted = true
  exited : watch.stage.afterExit = true → watch.exited = true

theorem Watch.Windowed.step {delivers : Bool} {watch next : Watch} (windowed : watch.Windowed)
    (released : next.startReleased = true → watch.startReleased = true ∨ watch.observed = false)
    (confirmed : watch.execConfirmed = true → next.execConfirmed = true)
    (stepped : WatchStep config delivers watch next) : next.Windowed where
  attempted := by
    have := windowed.attempted
    cases stepped <;> grind -ring -linarith
  escalating := by
    have := windowed.escalating
    cases stepped <;> grind -ring -linarith
  exited := by
    have := windowed.exited
    cases stepped <;> grind -ring -linarith

/-- Whatever pass is being made, it is not in the window. -/
theorem Watch.Windowed.outside {watch : Watch} (windowed : watch.Windowed) {site : PassSite}
    (passing : watch.stage = .passing site) (released : watch.startReleased = true) :
    watch.execConfirmed = true ∨ watch.exited = true := by
  cases site with
  | cancellation => exact .inl ((windowed.attempted (.inr passing)).2 released)
  | escalation => exact .inl ((windowed.attempted (.inl (windowed.escalating passing))).2 released)
  | cleanupTerm | cleanupKill | deadlineKill | finalKill =>
      exact .inr (windowed.exited (by rw [passing]; rfl))

/-- A confirmed start stays confirmed. -/
theorem execConfirmed_kept {move : Move} (taken : step config move system = some next)
    (confirmed : system.locals.execConfirmed = true) : next.locals.execConfirmed = true := by
  have stepped := gate_step taken
  have before : system.gate.execConfirmed = true := confirmed
  show next.gate.execConfirmed = true
  generalize next.gate = after at stepped ⊢
  cases stepped <;> grind -ring -linarith

/-- The start byte is written before a cancellation is observed. -/
theorem released_kept {move : Move} (sound : system.GateSound)
    (taken : step config move system = some next)
    (released : next.locals.startReleased = true) :
    system.locals.startReleased = true ∨ system.locals.cancellationObserved = false := by
  rw [(marked_step taken).released, Bool.or_eq_true] at released
  rcases released with before | writes
  · exact .inl before
  · exact .inr (gate_of_writesStart sound writes).2.2

/-! ## Terminate before kill -/

/-- A pass sends the signal of its site. -/
def Place.sendsOwn : Place → Bool
  | .signalling site pass => pass.signal == site.signal
  | _ => true

theorem signal_passStep {table : ProcessTable} {state : LeaderState} {pass later : SignalPass}
    {answer : Answer} {birth : Option Nat}
    (stepped : pass.step table state answer = .running later birth) :
    later.signal = pass.signal := by
  unfold SignalPass.step at stepped
  repeat' split at stepped
  all_goals cases stepped <;> rfl

theorem sendsOwn_supervisorStep {answer : Answer} (own : system.place.sendsOwn = true)
    (taken : supervisorStep config answer system = some next) :
    next.place.sendsOwn = true := by
  rcases system with ⟨place, locals, child, control, ready, output, error, start, token,
    clock, table, log⟩
  cases place with
  | signalling site pass =>
      cases taken
      unfold System.signalling
      split
      next later running =>
        rw [Place.sendsOwn, ← signal_passStep running] at own
        exact own
      next later birth running =>
        rw [Place.sendsOwn, ← signal_passStep running] at own
        exact own
      next => cases site <;> rfl
  | returned | threw | terminated => cases taken
  | waitChild errno =>
      simp only [supervisorStep, System.waitChild] at taken
      repeat' split at taken
      all_goals cases taken
      all_goals rfl
  | killChild errno =>
      cases taken
      rfl
  | checkSupport | loopHead | loopEnd =>
      cases taken
      split <;> rfl
  | _ =>
      cases taken
      simp only [System.checkToken, System.checkVerdict, System.fork, System.forked,
        System.openPidfd, System.observeChildExit, System.observeCancellation, System.startGate,
        System.gateCancellation, System.writeStart, System.sendCancellationSignal,
        System.beginPass, System.cancellationClock, System.readClock, System.escalate,
        System.startCleanup, System.continueCleanup, System.beginWait, System.waiting,
        System.checkCleanupDeadline, System.reapControlled, System.reapUncontrolled,
        System.reap, System.cleaningGroup, System.drainOutput, System.drainError,
        System.readControl, System.readReady, System.verifyParentCleanup]
      repeat' split
      all_goals rfl

/-- In every run a pass sends the signal of its site, so that a recorded pass stands for that
signal. -/
theorem sendsOwn_run
    (run : Reaches (step config) unrestricted (config.initial token clock) system) :
    system.place.sendsOwn = true := by
  refine run.preserves (fun system => system.place.sendsOwn = true) ?_ rfl
  intro state move next own _ taken
  by_cases inside : ∃ answer, move = .supervisor answer
  · obtain ⟨answer, rfl⟩ := inside
    exact sendsOwn_supervisorStep own taken
  · rw [place_step (fun answer same => inside ⟨answer, same⟩) taken]
    exact own

/-- A pass of `SIGTERM`. -/
def Event.isTermPass : Event → Bool
  | .signalPass site _ => site.signal == .sigterm
  | _ => false

/-- A pass of `SIGKILL`. -/
def Event.isKillPass : Event → Bool
  | .signalPass site _ => site.signal == .sigkill
  | _ => false

/-- `SIGKILL` is sent only where `SIGTERM` has been. -/
structure Watch.Gentle (watch : Watch) : Prop where
  flagged : watch.attempted = true ∨ watch.started = true ∨ watch.forced = true →
    watch.calls.any Event.isTermPass = true
  passing : ∀ site, watch.stage = .passing site → watch.calls.any Event.isTermPass = true
  started : watch.stage = .passing .cleanupKill ∨ watch.stage = .beginning ∨
      watch.stage = .scanning ∨ watch.stage = .checking → watch.started = true
  ordered : ∀ late event early, watch.calls = late ++ event :: early →
    event.isKillPass = true → early.any Event.isTermPass = true

/-- One more call keeps the order, if it is no `SIGKILL` or a `SIGTERM` came before. -/
theorem ordered_cons {calls : List Event} {call : Event}
    (ordered : ∀ late event early, calls = late ++ event :: early →
      event.isKillPass = true → early.any Event.isTermPass = true)
    (justified : call.isKillPass = true → calls.any Event.isTermPass = true) :
    ∀ late event early, call :: calls = late ++ event :: early →
      event.isKillPass = true → early.any Event.isTermPass = true := by
  intro late event early split kills
  cases late with
  | nil =>
      cases split
      exact justified kills
  | cons first late =>
      cases split
      exact ordered late event early rfl kills

theorem Watch.Gentle.step {delivers : Bool} {watch next : Watch} (gentle : watch.Gentle)
    (stepped : WatchStep config delivers watch next) : next.Gentle where
  flagged := by
    have := gentle.flagged
    have := gentle.passing
    cases stepped <;> grind -ring -linarith [Event.isTermPass, PassSite.signal]
  passing := by
    have := gentle.flagged
    have := gentle.passing
    have := gentle.started
    cases stepped <;> grind -ring -linarith [Event.isTermPass, PassSite.signal]
  started := by
    have := gentle.started
    cases stepped <;> grind -ring -linarith
  ordered := by
    have flagged := gentle.flagged
    cases stepped with
    | cancel | timed | startTerm | scan =>
        exact ordered_cons gentle.ordered (by intro kills; cases kills)
    | escalate _ attempted =>
        exact ordered_cons gentle.ordered fun _ => flagged (.inl attempted)
    | kill _ _ started =>
        exact ordered_cons gentle.ordered fun _ => flagged (.inr (.inl started))
    | late here | lateAgain here =>
        have started := gentle.started (.inr (.inr (.inr here)))
        exact ordered_cons gentle.ordered fun _ => flagged (.inr (.inl started))
    | _ => exact gentle.ordered

/-- The passes among the calls are those of the whole log. -/
theorem any_isTermPass_filter (log : List Event) :
    (log.filter Event.isCall).any Event.isTermPass = log.any Event.isTermPass := by
  rw [List.any_filter]
  congr 1
  funext event
  cases event <;> simp [Event.isCall, Event.isTermPass]

theorem Watch.Gentle.ordered_log (gentle : system.watch.Gentle) {late early : List Event}
    {event : Event} (split : system.log = late ++ event :: early)
    (kills : event.isKillPass = true) : early.any Event.isTermPass = true := by
  have call : event.isCall = true := by
    cases event with
    | signalPass => rfl
    | _ => cases kills
  have calls : system.watch.calls =
      late.filter Event.isCall ++ event :: early.filter Event.isCall := by
    simp [System.watch, split, call]
  rw [← any_isTermPass_filter]
  exact gentle.ordered _ _ _ calls kills

/-! ## Every run -/

/-- What the whole run keeps. -/
structure Orderly (config : Config) (history : List (System × Move)) (system : System) :
    Prop where
  sound : system.GateSound
  chronicle : Chronicle config history system
  windowed : system.watch.Windowed
  gentle : system.watch.Gentle

theorem orderly_initial (config : Config) (token : Bool) (clock : Nat) :
    Orderly config [] (config.initial token clock) where
  sound := gateSound_initial config token clock
  chronicle := chronicle_initial config token clock
  windowed := by constructor <;> simp [System.watch, Config.initial, Locals.initial,
    Place.stage, Stage.afterExit]
  gentle := by constructor <;> simp [System.watch, Config.initial, Locals.initial, Place.stage]

theorem Orderly.step {history : List (System × Move)} {move : Move}
    (orderly : Orderly config history system) (taken : step config move system = some next) :
    Orderly config (history ++ [(system, move)]) next where
  sound := gateSound_step orderly.sound taken
  chronicle := orderly.chronicle.step orderly.sound taken
  windowed := orderly.windowed.step (released_kept orderly.sound taken)
    (execConfirmed_kept taken) (watch_step taken)
  gentle := orderly.gentle.step (watch_step taken)

theorem orderly_of_replay {moves : List Move}
    (played : replay (step config) unrestricted moves (config.initial token clock) =
      some system) :
    Orderly config (transcript (step config) moves (config.initial token clock)) system := by
  refine replay_transcript (Orderly config) ?_ played (orderly_initial config token clock)
  intro history state move next orderly _ taken
  exact orderly.step taken

/-- The start byte is written at most once, after a ready byte and before any observed
cancellation; no pass is made between its write and the confirmed start or the observed exit;
and every pass of `SIGKILL` comes after one of `SIGTERM`. -/
theorem startGate_and_signalWindow {moves : List Move}
    (played : replay (step config) unrestricted moves (config.initial token clock) =
      some system) :
    let history := transcript (step config) moves (config.initial token clock)
    history.countP isStartWrite ≤ 1 ∧
      (∀ early entry late, history = early ++ entry :: late → isStartWrite entry = true →
        early.any isReadyByte = true ∧ early.any (isObservation config) = false) ∧
      (∀ early entry late, history = early ++ entry :: late →
        isObservation config entry = true → late.any isStartWrite = false) ∧
      (∀ site pass, system.place = .signalling site pass →
        ¬(system.locals.startReleased = true ∧ system.locals.execConfirmed = false ∧
          system.locals.childExited = false)) ∧
      ∀ late event early, system.log = late ++ event :: early → event.isKillPass = true →
        early.any Event.isTermPass = true := by
  intro history
  have orderly := orderly_of_replay played
  refine ⟨orderly.chronicle.once, ?_, ?_, ?_, ?_⟩
  · intro early entry late split writes
    refine ⟨orderly.chronicle.afterReady early entry late split writes, ?_⟩
    have apart := orderly.chronicle.unobserved
    rw [show transcript (step config) moves (config.initial token clock) = _ from split,
      List.pairwise_append] at apart
    rw [List.any_eq_false]
    intro earlier member observation
    have silent := apart.2.2 earlier member entry List.mem_cons_self observation
    rw [writes] at silent
    cases silent
  · intro early entry late split observation
    have apart := orderly.chronicle.unobserved
    rw [show transcript (step config) moves (config.initial token clock) = _ from split,
      List.pairwise_append, List.pairwise_cons] at apart
    rw [List.any_eq_false]
    intro later member
    simp [apart.2.1.1 later member observation]
  · rintro site pass here ⟨released, unconfirmed, running⟩
    have stage : system.watch.stage = .passing site := by simp [System.watch, here, Place.stage]
    rcases orderly.windowed.outside stage released with confirmed | exited
    · have value : system.locals.execConfirmed = true := confirmed
      rw [unconfirmed] at value
      cases value
    · have value : system.locals.childExited = true := exited
      rw [running] at value
      cases value
  · intro late event early split kills
    exact orderly.gentle.ordered_log split kills

/-- A cancelled execution that is killed after its grace period: the start byte is written
once and the forced pass follows one of `SIGTERM`. -/
theorem startGate_and_signalWindow_forced :
    ∃ system, replay (step (Config.plain true 1000)) unrestricted
        (releasedStart ++ advanced 3 ++ supervised 15 ++ [.request] ++ supervised 22 ++
          [.tick 1000000000] ++ supervised 18)
        ((Config.plain true 1000).initial false 0) = some system ∧
      (∃ late early, system.log = late ++ Event.signalPass .escalation 1000000000 :: early ∧
        early.any Event.isTermPass = true) ∧
      (transcript (step (Config.plain true 1000))
        (releasedStart ++ advanced 3 ++ supervised 15 ++ [.request] ++ supervised 22 ++
          [.tick 1000000000] ++ supervised 18)
        ((Config.plain true 1000).initial false 0)).countP isStartWrite ≤ 1 := by
  have played : (replay (step (Config.plain true 1000)) unrestricted
      (releasedStart ++ advanced 3 ++ supervised 15 ++ [.request] ++ supervised 22 ++
        [.tick 1000000000] ++ supervised 18)
      ((Config.plain true 1000).initial false 0)).any
      (fun system => decide (Event.signalPass .escalation 1000000000 ∈ system.log)) =
        true := by
    decide
  obtain ⟨system, found, test⟩ := (Option.any_eq_true _ _).mp played
  have result := startGate_and_signalWindow found
  obtain ⟨late, early, split⟩ := List.append_of_mem (of_decide_eq_true test)
  exact ⟨system, found, ⟨late, early, split, result.2.2.2.2 late _ early split rfl⟩, result.1⟩

end PkgexecLinux.Supervisor

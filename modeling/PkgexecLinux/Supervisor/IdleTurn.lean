import PkgexecLinux.Supervisor.GroupCleanup
import PkgexecLinux.Supervisor.Turns

/-!
# A turn in which nothing new is done

Four milestones of a controlled cleanup are passed once: the first signal, the forced
one, the start of the cleanup and its end.  A turn that passes none of them, and that
begins after the cleanup deadline, finds everything done when it comes to its end.
-/

namespace PkgexecLinux.Supervisor

open Foundation Kernel Process

variable {config : Config} {system next first : System}

/-! ## Deadlines and milestones -/

/-- A started cleanup has a deadline. -/
structure Watch.Dated (config : Config) (watch : Watch) : Prop where
  attempted : watch.attempted = true → watch.stage ≠ .timing →
    watch.cancellationDeadline.isSome = true
  started : watch.started = true → watch.stage ≠ .passing .cleanupTerm →
    watch.cleanupDeadline.isSome = true
  forced : watch.forced = true → watch.cleanupDeadline.isSome = true
  sweeping : watch.stage = .sweeping → config.controlled = false

theorem Watch.Dated.step {delivers : Bool} {watch next : Watch} (dated : watch.Dated config)
    (stepped : WatchStep config delivers watch next) : next.Dated config where
  attempted := by
    have := dated.attempted
    cases stepped <;> grind -ring -linarith
  started := by
    have := dated.attempted
    have := dated.started
    have := dated.forced
    cases stepped <;> grind -ring -linarith
  forced := by
    have := dated.attempted
    have := dated.forced
    cases stepped <;> grind -ring -linarith
  sweeping := by
    have := dated.sweeping
    cases stepped <;> grind -ring -linarith

/-- The four things a controlled cleanup does once. -/
@[grind] def Watch.milestones (config : Config) (watch : Watch) : Bool × Bool × Bool × Bool :=
  (watch.attempted, watch.forced, watch.started, config.controlled && watch.complete)

/-- How many of them are still to be done. -/
def Watch.pending (config : Config) (watch : Watch) : Nat :=
  (!watch.attempted).toNat + (!watch.forced).toNat + (!watch.started).toNat +
    (!(config.controlled && watch.complete)).toNat

/-- A step does none of them, or does one for good. -/
theorem milestones_step {delivers : Bool} {watch next : Watch} (dated : watch.Dated config)
    (stepped : WatchStep config delivers watch next) :
    next.milestones config = watch.milestones config ∨
      next.pending config < watch.pending config := by
  cases stepped with
  | signalled =>
      cases done : watch.attempted with
      | true => exact .inl (by simp [Watch.milestones, done])
      | false => exact .inr (by simp [Watch.pending, done])
  | escalated | deadlineKilled =>
      cases done : watch.forced with
      | true => exact .inl (by simp [Watch.milestones, done])
      | false => exact .inr (by simp [Watch.pending, done])
  | startTerm _ _ _ fresh | startTimed _ _ _ fresh | startForced _ _ _ fresh =>
      exact .inr (by simp [Watch.pending, Watch.pass, fresh])
  | gone | finalKilled =>
      cases done : config.controlled && watch.complete with
      | true => exact .inl (by simp_all [Watch.milestones])
      | false =>
          cases controlled : config.controlled with
          | false => exact .inl (by simp [Watch.milestones, controlled])
          | true => exact .inr (by simp_all [Watch.pending])
  | swept complete here => exact .inl (by simp [Watch.milestones, dated.sweeping here])
  | _ => exact .inl rfl

/-! ## What lasts -/

/-- The flags that decide about the end of the loop are never taken back. -/
structure Watch.Lasts (config : Config) (watch next : Watch) : Prop where
  exited : watch.exited = true → next.exited = true
  reaped : watch.reaped = true → next.reaped = true
  started : watch.started = true → next.started = true
  complete : config.controlled = true → watch.complete = true → next.complete = true
  now : next.now = watch.now ∨ next.now = watch.clock

theorem WatchStep.lasts {delivers : Bool} {watch next : Watch} (dated : watch.Dated config)
    (stepped : WatchStep config delivers watch next) : watch.Lasts config next := by
  have sweeping := dated.sweeping
  cases stepped <;> constructor <;> grind -ring -linarith

/-! ## A turn in which nothing new is done -/

/-- No `waitid` about the terminated child fails, as it does with `ECHILD` for a child that
somebody else has waited for. -/
def exitHeard (system : System) : Move → Bool
  | .supervisor answer =>
      system.place != .observeChildExit || system.locals.childExited ||
        match answer, system.child.phase with
        | .interrupted, _ => true
        | .refused _, _ => false
        | _, .zombie _ => true
        | _, _ => false
  | _ => true

/-- Nothing new has been done since a state of the same turn, and nothing is about to move
the cleanup deadline alone. -/
structure Watch.Still (config : Config) (watch first : Watch) : Prop where
  same : watch.milestones config = first.milestones config
  deadline : watch.cleanupDeadline = first.cleanupDeadline
  unforced : watch.stage = .passing .escalation ∨ watch.stage = .passing .deadlineKill →
    watch.forced = false
  settled : watch.stage ≠ .passing .cleanupTerm

theorem Watch.Still.step {delivers : Bool} {first watch next : Watch}
    (still : watch.Still config first) (stepped : WatchStep config delivers watch next)
    (same : next.milestones config = first.milestones config) : next.Still config first where
  same := same
  deadline := by
    have := still.same
    have := still.deadline
    have := still.unforced
    have := still.settled
    cases stepped <;> grind -ring -linarith
  unforced := by
    have := still.unforced
    cases stepped <;> grind -ring -linarith
  settled := by
    have := still.same
    have := still.settled
    cases stepped <;> grind -ring -linarith

/-- What the place with this many places ahead sees to.  `first` is a state at the head of
the turn. -/
def System.settledAt (config : Config) (system first : System) : Nat → Prop
  | 27 => system.locals.childExited = true
  | 19 => ∀ due ∈ first.locals.cleanupDeadline, due ≤ system.locals.now
  | 16 => config.controlled = true → system.locals.cleanupStarted = true
  | 9 => config.controlled = true → system.locals.cleanupComplete = true
  | 8 => config.controlled = true → system.locals.childReaped = true
  | 7 => system.locals.childReaped = true
  | 5 => system.locals.outputOpen = false
  | 4 => system.locals.errorOpen = false
  | 3 => system.locals.controlOpen = false
  | 2 => system.locals.readyOpen = false
  | _ => True

/-- A turn that has done nothing new since its head, at which the cleanup deadline was
over. -/
structure Idle (config : Config) (first system : System) : Prop where
  dated : first.locals.cleanupStarted = true → first.locals.cleanupDeadline.isSome = true
  elapsed : ∀ due ∈ first.locals.cleanupDeadline, due ≤ system.clock
  still : system.watch.Still config first.watch
  behind : ∀ place, system.place.ahead < place → system.settledAt config first place

/-- What has been seen to stays so. -/
theorem settledAt_lasts (lasts : system.watch.Lasts config next.watch)
    (ends : next.locals.ends ≤ system.locals.ends)
    (elapsed : ∀ due ∈ first.locals.cleanupDeadline, due ≤ system.clock) {place : Nat}
    (settled : system.settledAt config first place) : next.settledAt config first place := by
  obtain ⟨output, error, control, ready⟩ := ends
  unfold System.settledAt at settled ⊢
  split at settled
  · exact lasts.exited settled
  · intro due member
    show due ≤ next.watch.now
    rcases lasts.now with same | read
    · rw [same]
      exact settled due member
    · rw [read]
      exact elapsed due member
  · exact fun controlled => lasts.started (settled controlled)
  · exact fun controlled => lasts.complete controlled (settled controlled)
  · exact fun controlled => lasts.reaped (settled controlled)
  · exact lasts.reaped settled
  · exact le_bot_iff.mp (output.trans (le_of_eq settled))
  · exact le_bot_iff.mp (error.trans (le_of_eq settled))
  · exact le_bot_iff.mp (control.trans (le_of_eq settled))
  · exact le_bot_iff.mp (ready.trans (le_of_eq settled))
  · trivial

/-- Places that see to something. -/
def attending : List Nat := [27, 19, 16, 9, 8, 7, 5, 4, 3, 2]

/-- At the other places there is nothing to see to. -/
theorem settledAt_of_absent {place : Nat} (absent : place ∉ attending) :
    system.settledAt config first place := by
  unfold System.settledAt
  split <;> trivial

/-- What is seen to by the step from one place to the next, unless it leaves the loop. -/
def Attends (config : Config) (first system next : System) : Prop :=
  ∀ place, next.place.ahead < place → place ≤ system.place.ahead →
    next.settledAt config first place

theorem attends_stay (stays : system.place.ahead ≤ next.place.ahead) :
    Attends config first system next := by
  intro place above below
  omega

theorem attends_free
    (free : attending.all (fun place =>
      decide (place ≤ next.place.ahead) || decide (system.place.ahead < place)) = true) :
    Attends config first system next := by
  intro place above below
  apply settledAt_of_absent
  intro member
  have outside := List.all_eq_true.mp free place member
  simp only [Bool.or_eq_true, decide_eq_true_eq] at outside
  omega

/-- The step sees to one thing. -/
theorem attends_at {place : Nat} (settled : next.settledAt config first place)
    (free : attending.all (fun other => other == place ||
      (decide (other ≤ next.place.ahead) || decide (system.place.ahead < other))) = true) :
    Attends config first system next := by
  intro other above below
  by_cases same : other = place
  · rw [same]
    exact settled
  · apply settledAt_of_absent
    intro member
    have outside := List.all_eq_true.mp free other member
    simp only [Bool.or_eq_true, beq_iff_eq, decide_eq_true_eq] at outside
    omega

theorem attends_observeChildExit {answer : Answer} (here : system.place = .observeChildExit)
    (heard : exitHeard system (.supervisor answer) = true) :
    Attends config first system (system.observeChildExit answer) := by
  simp only [exitHeard, here, bne_self_eq_false, Bool.false_or, Bool.or_eq_true] at heard
  unfold System.observeChildExit
  split
  next exited =>
    refine attends_at (show System.settledAt config _ first 27 from exited) ?_
    simp [here, Place.ahead, attending]
  next running =>
    rcases heard with exited | heard
    · exact absurd exited running
    · split
      · exact attends_stay (le_refl _)
      · simp at heard
      · refine attends_at (show System.settledAt config _ first 27 from rfl) ?_
        simp [here, Place.ahead, attending]
      · simp_all

theorem attends_readClock (here : system.place = .readClock)
    (elapsed : ∀ due ∈ first.locals.cleanupDeadline, due ≤ system.clock) :
    Attends config first system system.readClock := by
  refine attends_at (show System.settledAt config _ first 19 from elapsed) ?_
  simp [System.readClock, here, Place.ahead, attending]

theorem attends_startCleanup (here : system.place = .startCleanup)
    (exited : system.locals.childExited = true) :
    Attends config first system (system.startCleanup config) := by
  have started : (system.startCleanup config).settledAt config first 16 := by
    intro controlled
    rw [System.startCleanup]
    repeat' split
    · rfl
    · rfl
    · rfl
    · simp_all [System.goto]
  apply attends_at started
  rw [System.startCleanup]
  repeat' split
  all_goals simp [here, Place.ahead, attending, System.beginPass]

theorem attends_continueCleanup (here : system.place = .continueCleanup)
    (exited : system.locals.childExited = true)
    (started : config.controlled = true → system.locals.cleanupStarted = true) :
    Attends config first system (system.continueCleanup config) := by
  rw [System.continueCleanup]
  split
  next =>
    split
    all_goals
      apply attends_free
      simp [here, Place.ahead, attending, System.beginPass]
  next idle =>
    have complete : (system.goto .reapControlled).settledAt config first 9 := by
      intro controlled
      show system.locals.cleanupComplete = true
      simpa [exited, controlled, started controlled] using idle
    apply attends_at complete
    simp [here, Place.ahead, attending]

theorem attends_waiting {wait : GroupWait} {answer : Answer}
    (here : system.place = .waiting wait) :
    Attends config first system (system.waiting wait answer) := by
  rw [System.waiting]
  split
  · apply attends_stay
    rw [here]
    exact le_refl _
  · apply attends_at (show System.settledAt config _ first 9 from fun _ => rfl)
    simp [here, Place.ahead, attending]
  · apply attends_free
    simp [here, Place.ahead, attending]

/-- An idle turn comes to the deadline only when it is over. -/
theorem attends_checkCleanupDeadline (here : system.place = .checkCleanupDeadline)
    (idle : Idle config first system) :
    Attends config first system system.checkCleanupDeadline := by
  rw [System.checkCleanupDeadline]
  split
  next =>
    split
    all_goals
      apply attends_free
      simp [here, Place.ahead, attending, System.beginPass]
  next early =>
    have complete : (system.goto .reapControlled).settledAt config first 9 := by
      intro controlled
      have started : system.locals.cleanupStarted = true :=
        idle.behind 16 (by simp [here, Place.ahead]) controlled
      have timely := idle.behind 19 (by simp [here, Place.ahead])
      have same := idle.still.same
      simp only [Watch.milestones, System.watch, Prod.mk.injEq] at same
      obtain ⟨due, found⟩ := Option.isSome_iff_exists.mp
        (idle.dated (same.2.2.1 ▸ started))
      have deadline : system.locals.cleanupDeadline = some due :=
        idle.still.deadline.trans found
      have passedNow : due ≤ system.locals.now := timely due found
      simp [passed, deadline, passedNow] at early
    apply attends_at complete
    simp [here, Place.ahead, attending]

theorem attends_signalling {site : PassSite} {pass : SignalPass} {answer : Answer}
    (here : system.place = .signalling site pass) (still : system.watch.Still config first.watch)
    (same : (system.signalling site pass answer).watch.milestones config =
      first.watch.milestones config) :
    Attends config first system (system.signalling site pass answer) := by
  have alike (later : SignalPass) :
      system.place.ahead ≤ (Place.signalling site later).ahead := by
    rw [here]
    cases site <;> exact le_refl _
  unfold System.signalling at same ⊢
  split at same
  next later _ => exact attends_stay (alike later)
  next later _ _ => exact attends_stay (alike later)
  next result _ =>
    cases site with
    | cancellation | escalation | cleanupTerm | cleanupKill =>
        apply attends_free
        simp [here, Place.ahead, attending, System.finishPass]
    | finalKill =>
        apply attends_at (show System.settledAt config _ first 9 from fun _ => rfl)
        simp [here, Place.ahead, attending, System.finishPass]
    | deadlineKill =>
        -- The pass would have been the forced one.
        have unforced : system.watch.forced = false :=
          still.unforced (.inr (by simp [System.watch, here, Place.stage]))
        have before := still.same
        rw [← same] at before
        have forced : system.locals.forcedSignalSent = true := by
          simpa [Watch.milestones, System.watch, System.finishPass, System.set,
            System.goto] using before
        rw [show system.watch.forced = true from forced] at unforced
        cases unforced

theorem attends_reapControlled {answer : Answer} (here : system.place = .reapControlled)
    (exited : system.locals.childExited = true)
    (complete : config.controlled = true → system.locals.cleanupComplete = true) :
    Attends config first system (system.reapControlled config answer) := by
  rw [System.reapControlled]
  split
  next =>
    split
    next => exact attends_stay (le_refl _)
    next =>
      apply attends_at (show System.settledAt config _ first 8 from fun _ => rfl)
      simp [here, Place.ahead, attending]
  next idle =>
    have reaped : (system.goto .reapUncontrolled).settledAt config first 8 := by
      intro controlled
      show system.locals.childReaped = true
      simpa [exited, controlled, complete controlled] using idle
    apply attends_at reaped
    simp [here, Place.ahead, attending]

theorem attends_reapUncontrolled {answer : Answer} (here : system.place = .reapUncontrolled)
    (exited : system.locals.childExited = true)
    (reaped : config.controlled = true → system.locals.childReaped = true) :
    Attends config first system (system.reapUncontrolled config answer) := by
  rw [System.reapUncontrolled]
  split
  next =>
    split
    next => exact attends_stay (le_refl _)
    next =>
      refine attends_at (show System.settledAt config _ first 7 from rfl) ?_
      simp [here, Place.ahead, attending]
  next idle =>
    have reaped : (system.goto .drainOutput).settledAt config first 7 := by
      show system.locals.childReaped = true
      cases controlled : config.controlled with
      | true => exact reaped controlled
      | false => simpa [exited, controlled] using idle
    apply attends_at reaped
    simp [here, Place.ahead, attending]

theorem attends_drainFd {answer : Answer} {stream : CaptureStream}
    (here : system.place = stream.place) (closed : (system.pipe stream).writers = 0)
    (stays : (system.drainFd answer stream).place.inLoop = true) :
    Attends config first system (system.drainFd answer stream) := by
  have seen {locals : Locals} (shut : locals.opened stream = false) :
      Attends config first system ((system.set locals).goto stream.next) := by
    cases stream with
    | output =>
        refine attends_at (show System.settledAt config _ first 5 from shut) ?_
        simp [here, CaptureStream.place, CaptureStream.next, Place.ahead, attending]
    | error =>
        refine attends_at (show System.settledAt config _ first 4 from shut) ?_
        simp [here, CaptureStream.place, CaptureStream.next, Place.ahead, attending]
  have shutClose : (system.locals.close stream).opened stream = false := by
    cases stream <;> rfl
  revert stays
  rw [System.drainFd]
  split
  next =>
    rcases read_closed closed System.drainSize answer with
      ⟨interrupted, result⟩ | ⟨errno, result⟩ | result | ⟨bytes, rest, shorter, result⟩
    · simp only [result]
      exact fun _ => attends_stay (le_refl _)
    · simp only [result]
      intro _
      apply seen
      cases stream <;> rfl
    · simp only [result]
      exact fun _ => seen shutClose
    · simp only [result]
      split
      next =>
        intro stays
        cases stays
      next =>
        intro _
        apply attends_stay
        cases stream <;> exact le_refl _
  next shut => exact fun _ => seen (eq_false_of_ne_true shut)

theorem attends_readControl {answer : Answer} (here : system.place = .readControl)
    (closed : system.control.writers = 0) :
    Attends config first system (system.readControl answer) := by
  rw [System.readControl]
  split
  next =>
    rcases read_closed closed (ChildError.size - system.locals.controlBytes.length) answer with
      ⟨interrupted, result⟩ | ⟨errno, result⟩ | result | ⟨bytes, rest, shorter, result⟩
    · simp only [result]
      exact attends_stay (le_refl _)
    · simp only [result]
      refine attends_at (show System.settledAt config _ first 3 from rfl) ?_
      simp [here, Place.ahead, attending]
    · simp only [result]
      refine attends_at (show System.settledAt config _ first 3 from rfl) ?_
      simp [here, Place.ahead, attending]
    · simp only [result]
      exact attends_stay (le_refl _)
  next shut =>
    refine attends_at
      (show System.settledAt config _ first 3 from eq_false_of_ne_true shut) ?_
    simp [here, Place.ahead, attending]

theorem attends_readReady {answer : Answer} (here : system.place = .readReady)
    (closed : system.ready.writers = 0) :
    Attends config first system (system.readReady answer) := by
  rw [System.readReady]
  split
  next =>
    rcases read_closed closed 1 answer with
      ⟨interrupted, result⟩ | ⟨errno, result⟩ | result | ⟨bytes, rest, shorter, result⟩
    · simp only [result]
      exact attends_stay (le_refl _)
    · simp only [result]
      refine attends_at (show System.settledAt config _ first 2 from rfl) ?_
      simp [here, Place.ahead, attending]
    · simp only [result]
      refine attends_at (show System.settledAt config _ first 2 from rfl) ?_
      simp [here, Place.ahead, attending]
    · simp only [result]
      exact attends_stay (le_refl _)
  next shut =>
    refine attends_at
      (show System.settledAt config _ first 2 from eq_false_of_ne_true shut) ?_
    simp [here, Place.ahead, attending]

/-- Every place of an idle turn sees to what it is there for. -/
theorem attends_supervisorStep {answer : Answer} (inside : system.place.inLoop = true)
    (stays : next.place.inLoop = true) (idle : Idle config first system) (quiet : system.Quiet)
    (heard : exitHeard system (.supervisor answer) = true)
    (same : next.watch.milestones config = first.watch.milestones config)
    (taken : supervisorStep config answer system = some next) :
    Attends config first system next := by
  have behind := idle.behind
  cases place : system.place with
  | observeChildExit =>
      simp only [supervisorStep, place, Option.some.injEq] at taken
      subst taken
      exact attends_observeChildExit place heard
  | readClock =>
      simp only [supervisorStep, place, Option.some.injEq] at taken
      subst taken
      exact attends_readClock place idle.elapsed
  | startCleanup =>
      simp only [supervisorStep, place, Option.some.injEq] at taken
      subst taken
      exact attends_startCleanup place (behind 27 (by simp [place, Place.ahead]))
  | continueCleanup =>
      simp only [supervisorStep, place, Option.some.injEq] at taken
      subst taken
      exact attends_continueCleanup place (behind 27 (by simp [place, Place.ahead]))
        (behind 16 (by simp [place, Place.ahead]))
  | waiting wait =>
      simp only [supervisorStep, place, Option.some.injEq] at taken
      subst taken
      exact attends_waiting place
  | checkCleanupDeadline =>
      simp only [supervisorStep, place, Option.some.injEq] at taken
      subst taken
      exact attends_checkCleanupDeadline place idle
  | signalling site pass =>
      simp only [supervisorStep, place, Option.some.injEq] at taken
      subst taken
      exact attends_signalling place idle.still same
  | reapControlled =>
      simp only [supervisorStep, place, Option.some.injEq] at taken
      subst taken
      exact attends_reapControlled place (behind 27 (by simp [place, Place.ahead]))
        (behind 9 (by simp [place, Place.ahead]))
  | reapUncontrolled =>
      simp only [supervisorStep, place, Option.some.injEq] at taken
      subst taken
      exact attends_reapUncontrolled place (behind 27 (by simp [place, Place.ahead]))
        (behind 8 (by simp [place, Place.ahead]))
  | drainOutput =>
      simp only [supervisorStep, place, Option.some.injEq] at taken
      subst taken
      exact attends_drainFd (show system.place = CaptureStream.output.place from place)
        quiet.output stays
  | drainError =>
      simp only [supervisorStep, place, Option.some.injEq] at taken
      subst taken
      exact attends_drainFd (show system.place = CaptureStream.error.place from place)
        quiet.error stays
  | readControl =>
      simp only [supervisorStep, place, Option.some.injEq] at taken
      subst taken
      exact attends_readControl place quiet.control
  | readReady =>
      simp only [supervisorStep, place, Option.some.injEq] at taken
      subst taken
      exact attends_readReady place quiet.ready
  | loopEnd =>
      simp only [supervisorStep, place, Option.some.injEq] at taken
      subst taken
      split
      · exact attends_stay (by simp [place, Place.ahead])
      next done =>
        rw [if_neg done] at stays
        cases stays
  | loopHead =>
      simp only [supervisorStep, place, Option.some.injEq] at taken
      subst taken
      split
      · exact attends_free (by simp [place, Place.ahead, attending])
      next done =>
        rw [if_neg done] at stays
        cases stays
  | observeCancellation =>
      simp only [supervisorStep, place, Option.some.injEq] at taken
      subst taken
      exact attends_free (by simp [place, Place.ahead, attending])
  | cleaningGroup phase =>
      simp only [supervisorStep, place, Option.some.injEq] at taken
      subst taken
      rw [System.cleaningGroup]
      split
      · exact attends_stay (by simp [place, Place.ahead])
      · exact attends_stay (by simp [place, Place.ahead])
      · exact attends_free (by simp [place, Place.ahead, attending])
  | startGate | gateCancellation | sendCancellationSignal | cancellationClock | escalate
  | beginWait =>
      simp only [supervisorStep, place, Option.some.injEq] at taken
      subst taken
      simp only [System.startGate, System.gateCancellation, System.sendCancellationSignal,
        System.cancellationClock, System.escalate, System.beginWait]
      repeat' split
      all_goals exact attends_free (by simp [place, Place.ahead, attending, System.beginPass])
  | writeStart =>
      simp only [supervisorStep, place, Option.some.injEq] at taken
      subst taken
      revert stays
      unfold System.writeStart
      repeat' split
      · exact fun _ => attends_stay (le_refl _)
      · exact fun _ => attends_free (by simp [place, Place.ahead, attending])
      · exact fun _ => attends_free (by simp [place, Place.ahead, attending])
      · exact fun _ => attends_free (by simp [place, Place.ahead, attending])
      · intro stays
        cases stays
      · exact fun _ => attends_free (by simp [place, Place.ahead, attending])
  | _ =>
      rw [place] at inside
      cases inside

/-- One step of an idle turn: it leaves the loop, does something new, or goes on idle. -/
theorem idle_supervisorStep {answer : Answer} (inside : system.place.inLoop = true)
    (idle : Idle config first system) (quiet : system.Quiet)
    (dated : system.watch.Dated config)
    (heard : exitHeard system (.supervisor answer) = true)
    (taken : supervisorStep config answer system = some next) :
    next.place.inLoop = false ∨
      next.watch.milestones config ≠ first.watch.milestones config ∨
      Idle config first next := by
  cases stays : next.place.inLoop with
  | false => exact .inl rfl
  | true =>
      right
      by_cases same : next.watch.milestones config = first.watch.milestones config
      · right
        have stepped := watch_supervisorStep taken
        refine ⟨idle.dated, ?_, idle.still.step stepped same, ?_⟩
        · rw [(frame_supervisorStep inside taken).clock]
          exact idle.elapsed
        · intro place above
          by_cases behind : system.place.ahead < place
          · exact settledAt_lasts (stepped.lasts dated) (frame_supervisorStep inside taken).ends
              idle.elapsed (idle.behind place behind)
          · exact attends_supervisorStep inside stays idle quiet heard same taken place above
              (not_lt.mp behind)
      · exact .inl same

/-- The others change nothing of an idle turn. -/
theorem idle_environment {move : Move} (idle : Idle config first system) (quiet : system.Quiet)
    (outside : ∀ answer, move ≠ .supervisor answer)
    (taken : step config move system = some next) :
    Idle config first next := by
  obtain ⟨token, clock, table, log, phase, later, ended, rfl⟩ :=
    quiet_environment quiet outside taken
  refine ⟨idle.dated, ?_, ⟨idle.still.same, idle.still.deadline, idle.still.unforced,
    idle.still.settled⟩, idle.behind⟩
  intro due member
  exact le_trans (idle.elapsed due member) later

/-- An idle turn that has come to its end has nothing left to do. -/
theorem finished_of_idle (idle : Idle config first system) (here : system.place = .loopEnd) :
    system.unfinished = false := by
  have ahead : system.place.ahead = 1 := by rw [here]; rfl
  have reaped : system.locals.childReaped = true := idle.behind 7 (by omega)
  have output : system.locals.outputOpen = false := idle.behind 5 (by omega)
  have error : system.locals.errorOpen = false := idle.behind 4 (by omega)
  have control : system.locals.controlOpen = false := idle.behind 3 (by omega)
  have ready : system.locals.readyOpen = false := idle.behind 2 (by omega)
  simp [System.unfinished, reaped, output, error, control, ready]

end PkgexecLinux.Supervisor

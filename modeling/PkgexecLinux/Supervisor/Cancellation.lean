import PkgexecLinux.Supervisor.Watch

/-!
# Deferred cancellation

`send_cancellation_signal` waits while a released start is unconfirmed, and does
not look at `child_exited` when it finally makes its pass.  This module proves
what the supervisor promises about cancellation in every run in which that
deferred pass does no harm, and shows for each promise a run in which it does.
-/

namespace PkgexecLinux.Supervisor

open Foundation Kernel Process

variable {config : Config} {token : Bool} {clock : Nat} {system later : System}

/-! ## Natural completion -/

/-- The pass of `send_cancellation_signal`. -/
def Event.isCancellationPass : Event → Bool
  | .signalPass .cancellation _ => true
  | _ => false

/-- `send_cancellation_signal` has begun its pass. -/
def System.cancellationPassMade (system : System) : Bool :=
  system.log.any Event.isCancellationPass

/-- The flags of `send_cancellation_signal` tell what it has done. -/
structure Watch.Flagged (watch : Watch) : Prop where
  delivered : watch.delivered = true → watch.attempted = true
  attempted : watch.attempted = true ∨ watch.stage = .passing .cancellation →
    watch.calls.any Event.isCancellationPass = true
  sending : watch.stage = .passing .cancellation → watch.attempted = false
  timing : watch.stage = .timing → watch.attempted = true

theorem Watch.Flagged.step {delivers : Bool} {watch next : Watch} (flagged : watch.Flagged)
    (stepped : WatchStep config delivers watch next) : next.Flagged where
  delivered := by
    cases stepped with
    | signalled => exact fun _ => rfl
    | _ => exact flagged.delivered
  attempted := by
    have := flagged.attempted
    cases stepped <;> grind -ring -linarith [Event.isCancellationPass]
  sending := by
    have := flagged.sending
    cases stepped <;> grind -ring -linarith
  timing := by
    have := flagged.timing
    cases stepped <;> grind -ring -linarith

theorem flagged_initial (config : Config) (token : Bool) (clock : Nat) :
    (config.initial token clock).watch.Flagged := by
  constructor <;> simp [System.watch, Config.initial, Place.stage, Locals.initial]

theorem flagged_step {move : Move} {next : System} (flagged : system.watch.Flagged)
    (taken : step config move system = some next) : next.watch.Flagged :=
  flagged.step (watch_step taken)

theorem cancellationPassMade_eq (system : System) :
    system.watch.calls.any Event.isCancellationPass = system.cancellationPassMade := by
  simp only [System.watch, System.cancellationPassMade, List.any_filter]
  congr 1
  funext event
  cases event <;> simp [Event.isCall, Event.isCancellationPass]

/-- The kernel does not admit the signal of a cancellation pass for a leader
whose exit has been observed. -/
def noLateDelivery (system : System) (move : Move) : Bool :=
  !(system.locals.childExited && deliversCancellation system move)

/-- An observed exit without a delivered signal stays one. -/
theorem undelivered_kept
    (exited : system.watch.exited = true) (undelivered : system.watch.delivered = false)
    (run : Reaches (step config) noLateDelivery system later) :
    later.watch.exited = true ∧ later.watch.delivered = false := by
  refine run.preserves
    (fun system => system.watch.exited = true ∧ system.watch.delivered = false) ?_
    ⟨exited, undelivered⟩
  intro system move next holds admitted taken
  have silent : deliversCancellation system move = false := by
    have exited : system.locals.childExited = true := holds.1
    simpa [noLateDelivery, exited] using admitted
  have stepped := watch_step taken
  rw [silent] at stepped
  generalize next.watch = after at stepped ⊢
  cases stepped <;> grind -ring -linarith

/-- A returned cancellation rests on a delivered signal. -/
structure Watch.Concluded (watch : Watch) : Prop where
  cancelled : ∀ outcome, watch.stage = .finished outcome → outcome.cancelledAfter = true →
    watch.delivered = true

theorem concluded_reached
    (run : Reaches (step config) noLateDelivery (config.initial token clock) system) :
    system.watch.Concluded := by
  refine run.preserves (fun system => system.watch.Concluded) ?_ ?_
  · intro system move next concluded _ taken
    have cancelled := concluded.cancelled
    have stepped := watch_step taken
    generalize next.watch = after at stepped ⊢
    constructor
    cases stepped <;> grind -ring -linarith
  · constructor
    simp [System.watch, Config.initial, Place.stage]

/-- A leader whose exit was observed before any cancellation pass is not reported
as cancelled, in every run without a late delivery. -/
theorem observed_completion_not_cancelled {outcome : Outcome}
    (run : Reaches (step config) noLateDelivery (config.initial token clock) system)
    (exited : system.locals.childExited = true)
    (unsignalled : system.cancellationPassMade = false)
    (after : Reaches (step config) noLateDelivery system later)
    (returned : later.outcome? = some outcome) : outcome.cancelledAfter = false := by
  have flagged : system.watch.Flagged := by
    refine run.preserves (fun system => system.watch.Flagged) ?_
      (flagged_initial config token clock)
    exact fun _ _ _ flagged _ taken => flagged_step flagged taken
  have undelivered : system.watch.delivered = false := by
    by_contra delivered
    have made := flagged.attempted (.inl (flagged.delivered (by simpa using delivered)))
    simp [cancellationPassMade_eq, unsignalled] at made
  have kept := undelivered_kept exited undelivered after
  have finished : later.watch.stage = .finished outcome := by
    simp [System.watch, System.place_of_outcome returned, Place.stage]
  by_contra cancelled
  have delivered := (concluded_reached (run.trans after)).cancelled outcome finished
    (by simpa using cancelled)
  simp [kept.2] at delivered

/-- A controlled run up to the release of the gate. -/
def releasedStart : List Move := supervised 10 ++ advanced 6 ++ supervised 25

/-- The token is requested and observed between the release of the gate and the
`execveat`, so that the cancellation pass is deferred; then the program runs. -/
def deferredCancellation : List Move :=
  releasedStart ++ [.request] ++ supervised 25 ++ advanced 3

theorem completed_not_cancelled :
    ∃ system later outcome,
      Reaches (step (Config.plain true 1000)) noLateDelivery
        ((Config.plain true 1000).initial false 0) system ∧
      system.locals.childExited = true ∧ system.cancellationPassMade = false ∧
      Reaches (step (Config.plain true 1000)) noLateDelivery system later ∧
      later.outcome? = some outcome ∧ outcome.cancelledAfter = false := by
  have played : (replay (step (Config.plain true 1000)) noLateDelivery
      (releasedStart ++ advanced 3 ++ [.child (.exit 0)] ++ supervised 12)
      ((Config.plain true 1000).initial false 0)).any
      (fun system => system.locals.childExited && !system.cancellationPassMade &&
        (replay (step (Config.plain true 1000)) noLateDelivery
          ([.request, .output .close, .error .close] ++ supervised 25) system).any
          fun later => later.outcome?.isSome) = true := by
    decide
  rcases exists_reached played with ⟨system, run, test⟩
  simp only [Bool.and_eq_true, Bool.not_eq_true'] at test
  rcases test with ⟨⟨exited, unsignalled⟩, ended⟩
  rcases exists_reached ended with ⟨later, after, returned⟩
  rcases Option.isSome_iff_exists.mp returned with ⟨outcome, returned⟩
  exact ⟨system, later, outcome, run, exited, unsignalled, after, returned,
    observed_completion_not_cancelled run exited unsignalled after returned⟩

/-- The program leaves a descendant behind and exits.  Its exit is observed; the
deferred pass is made one iteration later, and the kernel admits its signal for
the leader, which the descendant has kept unreaped. -/
theorem deferredCancellation_reclassified :
    ∃ system later outcome,
      Reaches (step (Config.plain true 1000)) unrestricted
        ((Config.plain true 1000).initial false 0) system ∧
      system.locals.childExited = true ∧ system.cancellationPassMade = false ∧
      Reaches (step (Config.plain true 1000)) unrestricted system later ∧
      later.outcome? = some outcome ∧ outcome.cancelledAfter = true := by
  have played : (replay (step (Config.plain true 1000)) unrestricted
      (deferredCancellation ++ [.process (.fork 100 101), .child (.exit 0)] ++ supervised 3)
      ((Config.plain true 1000).initial false 0)).any
      (fun system => system.locals.childExited && !system.cancellationPassMade &&
        (replay (step (Config.plain true 1000)) unrestricted
          (supervised 47 ++ [.process (.exit 101), .process (.reap 101),
            .output .close, .error .close] ++ supervised 18) system).any
          fun later => later.outcome?.any fun outcome => outcome.cancelledAfter) = true := by
    decide
  rcases exists_reached played with ⟨system, run, test⟩
  simp only [Bool.and_eq_true, Bool.not_eq_true'] at test
  rcases test with ⟨⟨exited, unsignalled⟩, ended⟩
  rcases exists_reached ended with ⟨later, after, returned⟩
  rcases (Option.any_eq_true _ _).mp returned with ⟨outcome, returned, cancelled⟩
  exact ⟨system, later, outcome, run, exited, unsignalled, after, returned, cancelled⟩

/-! ## The grace period -/

/-- A duration in clock units, as sealed in the request. -/
def Config.grace (config : Config) : Nat := milliseconds config.gracePeriodMilliseconds

/-- The deadline is not before `bound`; `none` is `time_point::max()`. -/
def notBefore (bound : Nat) : Option Nat → Bool
  | some deadline => decide (bound ≤ deadline)
  | none => true

/-- Where `send_cancellation_signal` fixes the grace period, no forced signal has
been sent, and a cleanup in progress has a deadline that lies after it. -/
def graceKept (config : Config) (system : System) (_ : Move) : Bool :=
  match system.place with
  | .cancellationClock =>
      !system.locals.forcedSignalSent &&
        (!system.locals.cleanupStarted || system.locals.cleanupComplete ||
          notBefore (system.clock + config.grace) system.locals.cleanupDeadline)
  | _ => true

/-- Bookkeeping of the calls and the deadlines. -/
structure Watch.Timed (config : Config) (watch : Watch) : Prop where
  ungraced : ∀ first, Event.gracePeriod first ∈ watch.calls →
    watch.attempted = true ∧ watch.stage ≠ .timing ∧
      watch.cancellationDeadline = some (first + config.grace)
  terming : watch.stage = .passing .cleanupTerm → watch.attempted = false
  killed : ∀ site reading, Event.signalPass site reading ∈ watch.calls →
    site.signal = .sigkill →
    watch.forced = true ∨ watch.stage = .passing .escalation ∨
      watch.stage = .passing .deadlineKill
  killing : watch.stage = .passing .cleanupKill ∨ watch.stage = .passing .finalKill →
    watch.forced = true
  present : watch.now ≤ watch.clock
  sweeping : config.controlled = true → watch.stage ≠ .sweeping

theorem Watch.Timed.step {delivers : Bool} {watch next : Watch}
    (flagged : watch.Flagged) (timed : watch.Timed config)
    (stepped : WatchStep config delivers watch next) : next.Timed config where
  ungraced := by
    have := timed.ungraced
    have := flagged.sending
    have := flagged.timing
    cases stepped <;> grind -ring -linarith [Config.grace]
  terming := by
    have := timed.terming
    cases stepped <;> grind -ring -linarith
  killed := by
    have := timed.killed
    have := timed.killing
    cases stepped <;> grind -ring -linarith [PassSite.signal]
  killing := by
    have := timed.killing
    cases stepped <;> grind -ring -linarith
  present := by
    cases stepped with
    | tick duration => exact Nat.le_trans timed.present (Nat.le_add_right _ _)
    | read => exact Nat.le_refl _
    | _ => exact timed.present
  sweeping := by
    have := timed.sweeping
    cases stepped <;> grind -ring -linarith

/-- What the grace period promises, and why: a forced signal comes after it, and
the deadline of a running cleanup does not end before it. -/
structure Watch.Patient (config : Config) (watch : Watch) : Prop where
  kills : ∀ first site reading, Event.gracePeriod first ∈ watch.calls →
    Event.signalPass site reading ∈ watch.calls → site.signal = .sigkill →
    first + config.grace ≤ reading
  forced : ∀ first, Event.gracePeriod first ∈ watch.calls →
    watch.forced = true ∨ watch.stage = .passing .escalation ∨
      watch.stage = .passing .deadlineKill → first + config.grace ≤ watch.now
  pending : ∀ first, Event.gracePeriod first ∈ watch.calls →
    watch.started = true → watch.complete = false → watch.forced = false →
    notBefore (first + config.grace) watch.cleanupDeadline = true
  scanning : watch.stage = .beginning ∨ watch.stage = .scanning ∨
    watch.stage = .checking ∨ watch.stage = .passing .cleanupKill →
    watch.started = true ∧ watch.complete = false

theorem le_of_passed {bound now : Nat} {deadline : Option Nat}
    (before : notBefore bound deadline = true) (expired : passed now deadline = true) :
    bound ≤ now := by
  cases deadline with
  | none => simp [passed] at expired
  | some value =>
      simp only [notBefore, passed, decide_eq_true_eq] at before expired
      omega

/-- The grace period is fixed before any forced signal and within the deadline of
a running cleanup. -/
structure Watch.Graced (config : Config) (watch : Watch) : Prop where
  unforced : watch.stage = .timing → watch.forced = false
  pending : watch.stage = .timing → watch.started = true → watch.complete = false →
    notBefore (watch.clock + config.grace) watch.cleanupDeadline = true

/-- The grace period has passed when the supervisor escalates. -/
theorem Watch.Timed.le_of_escalating {watch : Watch} {first : Nat}
    (timed : watch.Timed config) (fixed : Event.gracePeriod first ∈ watch.calls)
    (expired : passed watch.now watch.cancellationDeadline = true) :
    first + config.grace ≤ watch.now := by
  have deadline := (timed.ungraced first fixed).2.2
  refine le_of_passed ?_ expired
  simp [notBefore, deadline]

/-- The grace period has passed when the deadline of the cleanup has. -/
theorem Watch.Patient.le_of_late {watch : Watch} {first : Nat}
    (patient : watch.Patient config) (fixed : Event.gracePeriod first ∈ watch.calls)
    (stage : watch.stage = .checking) (unforced : watch.forced = false)
    (expired : passed watch.now watch.cleanupDeadline = true) :
    first + config.grace ≤ watch.now := by
  rcases patient.scanning (.inr (.inr (.inl stage))) with ⟨started, incomplete⟩
  exact le_of_passed (patient.pending first fixed started incomplete unforced) expired

theorem Watch.Patient.step {delivers : Bool} {watch next : Watch}
    (controlled : config.controlled = true)
    (timed : watch.Timed config) (patient : watch.Patient config)
    (graced : watch.Graced config) (stepped : WatchStep config delivers watch next) :
    next.Patient config where
  kills := by
    have kills := patient.kills
    have forced := patient.forced
    have killed := timed.killed
    intro first site reading
    cases stepped with
    | timed stage =>
        -- No forced signal precedes the fixing of the grace period.
        have unforced := graced.unforced stage
        grind -ring -linarith
    | escalate _ _ _ expired =>
        have escalating := fun fixed : Event.gracePeriod first ∈ watch.calls =>
          timed.le_of_escalating fixed expired
        grind -ring -linarith
    | late stage expired unforced =>
        have late := fun fixed : Event.gracePeriod first ∈ watch.calls =>
          patient.le_of_late fixed stage unforced expired
        grind -ring -linarith
    | _ => grind -ring -linarith [PassSite.signal]
  forced := by
    have forced := patient.forced
    have present := timed.present
    intro first
    cases stepped with
    | timed stage =>
        have unforced := graced.unforced stage
        grind -ring -linarith
    | escalate _ _ _ expired =>
        have escalating := fun fixed : Event.gracePeriod first ∈ watch.calls =>
          timed.le_of_escalating fixed expired
        grind -ring -linarith
    | late stage expired unforced =>
        have late := fun fixed : Event.gracePeriod first ∈ watch.calls =>
          patient.le_of_late fixed stage unforced expired
        grind -ring -linarith
    | _ => grind -ring -linarith
  pending := by
    have pending := patient.pending
    have ungraced := timed.ungraced
    have terming := timed.terming
    intro first
    cases stepped with
    | timed stage =>
        have := graced.pending stage
        grind -ring -linarith
    | startTimed => grind -ring -linarith [notBefore]
    | swept _ stage => exact absurd stage (timed.sweeping controlled)
    | _ => grind -ring -linarith
  scanning := by
    have scanning := patient.scanning
    cases stepped with
    | swept _ stage => exact absurd stage (timed.sweeping controlled)
    | _ => grind -ring -linarith

theorem graced_of_graceKept {move : Move}
    (admitted : graceKept config system move = true) : system.watch.Graced config := by
  by_cases timing : system.watch.stage = .timing
  · have here : system.place = .cancellationClock := by
      cases place : system.place <;> simp_all [System.watch, Place.stage]
    simp only [graceKept, here, Bool.and_eq_true, Bool.not_eq_true', Bool.or_eq_true]
      at admitted
    refine ⟨fun _ => admitted.1, fun _ started incomplete => ?_⟩
    rcases admitted.2 with (fresh | complete) | inside
    · exact absurd (fresh.symm.trans started) (by decide)
    · exact absurd (incomplete.symm.trans complete) (by decide)
    · exact inside
  · exact ⟨fun stage => absurd stage timing, fun stage => absurd stage timing⟩

/-- The bookkeeping of every run. -/
def System.Timely (config : Config) (system : System) : Prop :=
  system.watch.Flagged ∧ system.watch.Timed config

theorem timely_initial (config : Config) (token : Bool) (clock : Nat) :
    (config.initial token clock).Timely config := by
  refine ⟨flagged_initial config token clock, ?_⟩
  constructor <;> simp [System.watch, Config.initial, Place.stage, Locals.initial]

theorem timely_step {move : Move} {next : System} (timely : system.Timely config)
    (taken : step config move system = some next) : next.Timely config :=
  ⟨flagged_step timely.1 taken, timely.2.step timely.1 (watch_step taken)⟩

theorem patient_reached (controlled : config.controlled = true)
    (run : Reaches (step config) (graceKept config) (config.initial token clock) system) :
    system.watch.Patient config := by
  refine run.preserves_with (System.Timely config)
    (fun system => system.watch.Patient config)
    (fun _ _ _ timely _ taken => timely_step timely taken) ?_
    (timely_initial config token clock) ?_
  · intro system move next timely patient admitted taken
    exact patient.step controlled timely.2 (graced_of_graceKept admitted)
      (watch_step taken)
  · constructor <;> simp [System.watch, Config.initial, Place.stage]

theorem mem_calls {event : Event} (isCall : event.isCall = true)
    (logged : event ∈ system.log) : event ∈ system.watch.calls :=
  List.mem_filter.mpr ⟨logged, isCall⟩

/-- No pass with `SIGKILL` is made before the cancellation pass and its grace
period, in every run that fixes the grace period in time. -/
theorem no_early_escalation {first reading : Nat} {site : PassSite}
    (controlled : config.controlled = true)
    (run : Reaches (step config) (graceKept config) (config.initial token clock) system)
    (cancelled : Event.gracePeriod first ∈ system.log)
    (made : Event.signalPass site reading ∈ system.log)
    (kill : site.signal = .sigkill) : first + config.grace ≤ reading :=
  (patient_reached controlled run).kills first site reading (mem_calls rfl cancelled)
    (mem_calls rfl made) kill

/-- The cancellation is requested while the program runs, and the grace period passes. -/
def patientEscalation : List Move :=
  releasedStart ++ advanced 3 ++ supervised 15 ++ [.request] ++ supervised 22 ++
    [.tick 1000000000] ++ supervised 18

theorem escalated_after_grace :
    ∃ system,
      Reaches (step (Config.plain true 1000)) (graceKept (Config.plain true 1000))
        ((Config.plain true 1000).initial false 0) system ∧
      Event.gracePeriod 0 ∈ system.log ∧
      Event.signalPass .escalation 1000000000 ∈ system.log ∧
      0 + (Config.plain true 1000).grace ≤ 1000000000 := by
  have played : (replay (step (Config.plain true 1000)) (graceKept (Config.plain true 1000))
      patientEscalation ((Config.plain true 1000).initial false 0)).any
      (fun system => decide (Event.gracePeriod 0 ∈ system.log) &&
        decide (Event.signalPass .escalation 1000000000 ∈ system.log)) = true := by
    decide
  rcases exists_reached played with ⟨system, run, test⟩
  simp only [Bool.and_eq_true, decide_eq_true_eq] at test
  exact ⟨system, run, test.1, test.2, no_early_escalation rfl run test.1 test.2 rfl⟩

/-- The exit is observed and starts a cleanup with a deadline of 200 ms before
the deferred pass fixes a grace period of 1000 ms; the descendant is killed
300 ms into it. -/
theorem deferredCancellation_escalates_early :
    ∃ system,
      Reaches (step (Config.plain true 1000)) unrestricted
        ((Config.plain true 1000).initial false 0) system ∧
      system.locals.startReleased = true ∧ system.locals.cancellationObserved = true ∧
      system.locals.cancellationBeforeStart = false ∧
      Event.signalPass .cancellation 0 ∈ system.log ∧
      Event.gracePeriod 0 ∈ system.log ∧
      Event.signalPass .deadlineKill 300000000 ∈ system.log ∧
      300000000 < 0 + (Config.plain true 1000).grace := by
  have played : (replay (step (Config.plain true 1000)) unrestricted
      (deferredCancellation ++ [.process (.fork 100 101), .child (.exit 0)] ++
        supervised 51 ++ [.tick 300000000] ++ supervised 12)
      ((Config.plain true 1000).initial false 0)).any
      (fun system => system.locals.startReleased && system.locals.cancellationObserved &&
        !system.locals.cancellationBeforeStart &&
        decide (Event.signalPass .cancellation 0 ∈ system.log) &&
        decide (Event.gracePeriod 0 ∈ system.log) &&
        decide (Event.signalPass .deadlineKill 300000000 ∈ system.log)) = true := by
    decide
  rcases exists_reached played with ⟨system, run, test⟩
  simp only [Bool.and_eq_true, Bool.not_eq_true', decide_eq_true_eq] at test
  rcases test with ⟨⟨⟨⟨⟨released, observed⟩, after⟩, pass⟩, fixed⟩, killed⟩
  exact ⟨system, run, released, observed, after, pass, fixed, killed, by decide⟩

/-! ## Retention of the leader -/

/-- The scans and signals addressed to the group, newest first. -/
def System.groupCalls (system : System) : List Event := system.log.filter Event.usesGroup

/-- `send_cancellation_signal` makes no pass once the leader is reaped. -/
def noPassAfterReap (system : System) (_ : Move) : Bool :=
  match system.place with
  | .sendCancellationSignal => !(system.locals.childReaped && System.signalDue system.locals)
  | _ => true

/-- A stage at which the group is addressed, or about to be. -/
@[grind] def Stage.addressing : Stage → Bool
  | .passing _ | .timing | .beginning | .scanning | .checking => true
  | .elsewhere | .sending | .reading | .escalating | .starting | .continuing
  | .reaping | .sweeping | .finished _ => false

/-- The leader is reaped only when the cleanup is complete, and nothing addresses
the group any more. -/
structure Watch.Retired (watch : Watch) : Prop where
  started : watch.stage = .beginning ∨ watch.stage = .scanning ∨
    watch.stage = .checking ∨ watch.stage = .passing .finalKill ∨
    watch.stage = .passing .cleanupKill → watch.started = true
  complete : watch.complete = true → watch.started = true
  reaped : watch.reaped = true → watch.complete = true ∧ watch.stage.addressing = false
  sweeping : watch.stage ≠ .sweeping

theorem Watch.Retired.step {delivers : Bool} {watch next : Watch}
    (controlled : config.controlled = true) (retired : watch.Retired)
    (unsent : watch.stage = .sending → watch.reaped = true → watch.due = false)
    (stepped : WatchStep config delivers watch next) : next.Retired where
  started := by
    have := retired.started
    cases stepped <;> grind -ring -linarith
  complete := by
    have := retired.complete
    have := retired.started
    have := retired.sweeping
    cases stepped <;> grind -ring -linarith
  reaped := by
    have := retired.reaped
    have := retired.complete
    have := retired.sweeping
    cases stepped <;> grind -ring -linarith
  sweeping := by
    have := retired.sweeping
    cases stepped <;> grind -ring -linarith

/-- Nothing that a retired leader's supervisor does is a call. -/
theorem Watch.Retired.calls_eq {delivers : Bool} {watch next : Watch}
    (retired : watch.Retired) (reaped : watch.reaped = true)
    (unsent : watch.stage = .sending → watch.reaped = true → watch.due = false)
    (stepped : WatchStep config delivers watch next) :
    next.reaped = true ∧ next.calls = watch.calls := by
  have quiet := retired.reaped reaped
  have started := retired.complete quiet.1
  cases stepped <;> grind -ring -linarith

theorem unsent_of_noPassAfterReap {move : Move}
    (admitted : noPassAfterReap system move = true) :
    system.watch.stage = .sending → system.watch.reaped = true →
      system.watch.due = false := by
  intro sending reaped
  have here : system.place = .sendCancellationSignal := by
    cases place : system.place <;> simp_all [System.watch, Place.stage]
  have reaped : system.locals.childReaped = true := reaped
  simp only [noPassAfterReap, here, reaped, Bool.true_and, Bool.not_eq_true'] at admitted
  exact admitted

theorem retired_step {move : Move} {next : System} (controlled : config.controlled = true)
    (retired : system.watch.Retired) (admitted : noPassAfterReap system move = true)
    (taken : step config move system = some next) : next.watch.Retired :=
  retired.step controlled (unsent_of_noPassAfterReap admitted) (watch_step taken)

theorem groupCalls_eq (system : System) :
    system.groupCalls = system.watch.calls.filter Event.usesGroup := by
  simp only [System.groupCalls, System.watch, List.filter_filter]
  congr 1
  funext event
  cases event <;> rfl

/-- Once the leader is reaped the supervisor neither scans nor signals by the
group number, in every run in which no deferred pass follows the reaping. -/
theorem no_group_call_after_reap (controlled : config.controlled = true)
    (run : Reaches (step config) noPassAfterReap (config.initial token clock) system)
    (reaped : system.locals.childReaped = true)
    (after : Reaches (step config) noPassAfterReap system later) :
    later.groupCalls = system.groupCalls := by
  have retired : system.watch.Retired := by
    refine run.preserves (fun system => system.watch.Retired)
      (fun _ _ _ retired admitted taken => retired_step controlled retired admitted taken) ?_
    constructor <;>
      simp [System.watch, Config.initial, Place.stage, Locals.initial]
  have kept : later.watch.reaped = true ∧ later.watch.calls = system.watch.calls := by
    refine after.preserves_with (fun system => system.watch.Retired)
      (fun later => later.watch.reaped = true ∧ later.watch.calls = system.watch.calls)
      (fun _ _ _ retired admitted taken => retired_step controlled retired admitted taken)
      ?_ retired ⟨reaped, rfl⟩
    intro state move next retired holds admitted taken
    rcases retired.calls_eq holds.1 (unsent_of_noPassAfterReap admitted)
      (watch_step taken) with ⟨still, same⟩
    exact ⟨still, same.trans holds.2⟩
  rw [groupCalls_eq, groupCalls_eq, kept.2]

theorem completed_no_group_call :
    ∃ system later,
      Reaches (step (Config.plain true 1000)) noPassAfterReap
        ((Config.plain true 1000).initial false 0) system ∧
      system.locals.childReaped = true ∧
      Reaches (step (Config.plain true 1000)) noPassAfterReap system later ∧
      later.outcome?.isSome = true ∧ later.groupCalls = system.groupCalls := by
  have played : (replay (step (Config.plain true 1000)) noPassAfterReap
      (releasedStart ++ advanced 3 ++ [.child (.exit 0)] ++ supervised 30)
      ((Config.plain true 1000).initial false 0)).any
      (fun system => system.locals.childReaped &&
        (replay (step (Config.plain true 1000)) noPassAfterReap
          ([.output .close, .error .close] ++ supervised 7) system).any
          fun later => later.outcome?.isSome) = true := by
    decide
  rcases exists_reached played with ⟨system, run, test⟩
  simp only [Bool.and_eq_true] at test
  rcases exists_reached test.2 with ⟨later, after, returned⟩
  exact ⟨system, later, run, test.1, after, returned,
    no_group_call_after_reap rfl run test.1 after⟩

/-- A process outside the group keeps the program's standard output open, so that
the loop goes on after the leader has been reaped and makes the deferred pass. -/
theorem deferredCancellation_pass_after_reap :
    ∃ system later,
      Reaches (step (Config.plain true 1000)) unrestricted
        ((Config.plain true 1000).initial false 0) system ∧
      system.locals.childReaped = true ∧
      Reaches (step (Config.plain true 1000)) unrestricted system later ∧
      later.groupCalls = .signalPass .cancellation 0 :: system.groupCalls := by
  have played : (replay (step (Config.plain true 1000)) unrestricted
      (deferredCancellation ++ [.output .share, .child (.exit 0), .output .close] ++
        supervised 21)
      ((Config.plain true 1000).initial false 0)).any
      (fun system => system.locals.childReaped &&
        (replay (step (Config.plain true 1000)) unrestricted (supervised 11) system).any
          fun later => decide (later.groupCalls =
            .signalPass .cancellation 0 :: system.groupCalls)) = true := by
    decide
  rcases exists_reached played with ⟨system, run, test⟩
  simp only [Bool.and_eq_true] at test
  rcases exists_reached test.2 with ⟨later, after, grown⟩
  exact ⟨system, later, run, test.1, after, by simpa using grown⟩

end PkgexecLinux.Supervisor

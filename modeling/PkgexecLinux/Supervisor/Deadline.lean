import PkgexecLinux.Foundation.Chrono
import PkgexecLinux.Supervisor.Cancellation

/-!
# The cancellation deadline in machine words

`send_cancellation_signal` computes `cancellation_deadline` in the representation
of the steady clock, a signed word of 64 bits that counts nanoseconds, from a grace
period that the request holds as an unsigned word of milliseconds.  The supervisor
of `step` adds them without a bound.

This module puts the words of the source in the place of that addition.  It says
for which readings and grace periods the deadline keeps its promise, and that the
two supervisors make the same steps as long as no sum leaves the clock's range.
-/

namespace PkgexecLinux.Supervisor

open Foundation Kernel Process

/-! ## The arithmetic of the source -/

/-- Nanoseconds in a millisecond. -/
def millisecondTicks : Int64 := 1000000

theorem toInt_millisecondTicks : millisecondTicks.toInt = 1000000 := rfl

/-- `steady_clock::now() + milliseconds(grace_period_milliseconds)`. -/
def cancellationDeadline (reading : Int64) (gracePeriodMilliseconds : UInt64) : Int64 :=
  reading + inTicks millisecondTicks (durationOf gracePeriodMilliseconds)

/-- The moment at which the grace period has elapsed, which may lie beyond the
last time point of the clock. -/
def graceEnd (reading : Int64) (gracePeriodMilliseconds : UInt64) : Int :=
  reading.toInt + gracePeriodMilliseconds.toNat * 1000000

section Arithmetic

variable (reading : Int64) (grace : UInt64)

theorem toInt_cancellationDeadline :
    (cancellationDeadline reading grace).toInt = (graceEnd reading grace).bmod Int64.size := by
  rw [cancellationDeadline, toInt_add_inTicks, toInt_millisecondTicks, graceEnd]

theorem first_le_graceEnd : firstTimePoint.toInt ≤ graceEnd reading grace := by
  have low : firstTimePoint.toInt ≤ reading.toInt := reading.minValue_le_toInt
  rw [graceEnd]
  omega

/-- The deadline is not before the end of the grace period exactly when that end
is a time point of the clock. -/
theorem graceEnd_le_iff :
    graceEnd reading grace ≤ (cancellationDeadline reading grace).toInt ↔
      graceEnd reading grace ≤ lastTimePoint.toInt := by
  rw [toInt_cancellationDeadline]
  exact le_bmod_iff (first_le_graceEnd reading grace)

/-- The deadline is the last time point exactly when the end of the grace period
is, modulo the size of the word. -/
theorem cancellationDeadline_eq_last_iff :
    cancellationDeadline reading grace = lastTimePoint ↔
      graceEnd reading grace % Int64.size = lastTimePoint.toInt := by
  rw [← Int64.toInt_inj, toInt_cancellationDeadline, bmod_eq_last_iff]

/-- While the end of the grace period is a time point of the clock, no operation on
the way overflows. -/
theorem cancellationDeadline_defined {reading : Int64} {grace : UInt64}
    (running : 0 ≤ reading.toInt) (fits : graceEnd reading grace ≤ lastTimePoint.toInt) :
    (durationOf grace).toInt = grace.toNat ∧
      (inTicks millisecondTicks (durationOf grace)).toInt = grace.toNat * 1000000 ∧
      (cancellationDeadline reading grace).toInt = graceEnd reading grace := by
  have coarse : 1 ≤ millisecondTicks.toInt := by decide
  rw [cancellationDeadline, graceEnd, ← toInt_millisecondTicks] at *
  exact exact_of_fits running coarse fits

end Arithmetic

/-! ## The supervisor with this arithmetic -/

/-- A time point as the locals keep it.  `time_point::max()` is `none`, and a point
before the epoch of the clock has passed at every reading. -/
def keptTimePoint (point : Int64) : Option Nat :=
  if point = lastTimePoint then none else some point.toInt.toNat

/-- The test of the loop on a kept deadline is the signed comparison of the
source. -/
theorem passed_keptTimePoint {now : Nat} (early : now < lastTimePoint.toInt)
    (point : Int64) : passed now (keptTimePoint point) = decide (point ≤ Int64.ofNat now) := by
  have reading := toInt_ofNat_of_le_last (Int.le_of_lt early)
  rw [keptTimePoint]
  split
  next last =>
    have later : ¬ point ≤ Int64.ofNat now := by
      rw [Int64.le_iff_toInt_le, reading, last]
      omega
    simp [passed, later]
  next =>
    rw [passed]
    congr 1
    rw [Int64.le_iff_toInt_le, reading, Int.toNat_le]

/-- The deadline that `send_cancellation_signal` stores after a clock reading. -/
def Config.wordDeadline (config : Config) (reading : Nat) : Option Nat :=
  keptTimePoint (cancellationDeadline (Int64.ofNat reading)
    (UInt64.ofNat config.gracePeriodMilliseconds))

/-- `send_cancellation_signal` stores a deadline and returns. -/
def System.fixDeadline (system : System) (deadline : Option Nat) : System :=
  ((system.record (.gracePeriod system.clock)).set { system.locals with
    cancellationDeadline := deadline }).goto .readClock

/-- The end of `send_cancellation_signal`, as the source computes it. -/
def System.cancellationClockWords (config : Config) (system : System) : System :=
  system.fixDeadline (config.wordDeadline system.clock)

/-- One step of the system whose cancellation deadline is computed in words. -/
def stepWords (config : Config) (move : Move) (system : System) : Option System :=
  match move, system.place with
  | .supervisor _, .cancellationClock => some (system.cancellationClockWords config)
  | _, _ => step config move system

/-- The clock shows a time point before its last one. -/
def readable (system : System) (_ : Move) : Bool :=
  decide (system.clock < lastTimePoint.toInt)

/-! ## What a step does to the deadline -/

section Inversion

variable {config : Config} {move : Move} {system next : System}

/-- A step with words fixes the deadline, or it is a step that does not. -/
theorem stepWords_cases (taken : stepWords config move system = some next) :
    (system.place = .cancellationClock ∧ next = system.cancellationClockWords config) ∨
      (step config move system = some next ∧
        (system.place = .cancellationClock → next.place = .cancellationClock)) := by
  unfold stepWords at taken
  split at taken
  next here =>
    cases taken
    exact .inl ⟨here, rfl⟩
  next elsewhere =>
    refine .inr ⟨taken, fun here => ?_⟩
    exact (place_step (fun answer made => elsewhere answer made here) taken).trans here

/-- Everything a step with words can do to the watched part. -/
inductive WordStep (config : Config) (delivers : Bool) (watch : Watch) : Watch → Prop where
  | timed : watch.stage = .timing →
      WordStep config delivers watch { watch with
        stage := .reading
        cancellationDeadline := config.wordDeadline watch.clock
        calls := .gracePeriod watch.clock :: watch.calls }
  | other {next : Watch} : WatchStep config delivers watch next →
      (watch.stage = .timing → next.stage = .timing) →
      WordStep config delivers watch next

theorem stage_timing_iff (system : System) :
    system.watch.stage = .timing ↔ system.place = .cancellationClock := by
  cases place : system.place <;> simp [System.watch, Place.stage, place]

theorem watch_fixDeadline (deadline : Option Nat) :
    (system.fixDeadline deadline).watch = { system.watch with
      stage := .reading
      cancellationDeadline := deadline
      calls := .gracePeriod system.watch.clock :: system.watch.calls } := rfl

theorem word_step (taken : stepWords config move system = some next) :
    WordStep config (deliversCancellation system move) system.watch next.watch := by
  rcases stepWords_cases taken with ⟨here, rfl⟩ | ⟨taken, stays⟩
  · rw [System.cancellationClockWords, watch_fixDeadline]
    exact .timed ((stage_timing_iff system).mpr here)
  · apply WordStep.other (watch_step taken)
    rw [stage_timing_iff, stage_timing_iff]
    exact stays

end Inversion

/-! ## Runs -/

section Runs

variable {config : Config} {token : Bool} {clock : Nat} {system : System}

/-- The flags do not depend on how the deadline is computed. -/
theorem Watch.Flagged.wordStep {delivers : Bool} {watch next : Watch}
    (flagged : watch.Flagged) (stepped : WordStep config delivers watch next) :
    next.Flagged := by
  cases stepped with
  | timed stage =>
      have after := flagged.step (WatchStep.timed stage : WatchStep config delivers _ _)
      exact ⟨after.delivered, after.attempted, after.sending, after.timing⟩
  | other stepped _ => exact flagged.step stepped

/-- Bookkeeping of the grace period: its deadline stays the one computed from its
reading, and the supervisor escalates when that deadline has passed. -/
structure Watch.Granted (config : Config) (watch : Watch) : Prop where
  granted : ∀ first, Event.gracePeriod first ∈ watch.calls →
    watch.attempted = true ∧ watch.stage ≠ .timing ∧
      watch.cancellationDeadline = config.wordDeadline first
  escalated : ∀ now, Event.signalPass .escalation now ∈ watch.calls →
    watch.attempted = true ∧ watch.stage ≠ .timing
  present : watch.now ≤ watch.clock
  expired : ∀ first now, Event.gracePeriod first ∈ watch.calls →
    Event.signalPass .escalation now ∈ watch.calls →
    now < lastTimePoint.toInt ∧ passed now (config.wordDeadline first) = true

theorem Watch.Granted.other {delivers : Bool} {watch next : Watch}
    (flagged : watch.Flagged) (granted : watch.Granted config)
    (early : watch.clock < lastTimePoint.toInt)
    (stepped : WatchStep config delivers watch next)
    (stays : watch.stage = .timing → next.stage = .timing) : next.Granted config where
  granted := by
    have := granted.granted
    have := flagged.sending
    cases stepped <;> grind -ring -linarith
  escalated := by
    have := granted.escalated
    have := flagged.sending
    cases stepped <;> grind -ring -linarith
  present := by
    cases stepped with
    | tick duration => exact Nat.le_trans granted.present (Nat.le_add_right _ _)
    | read => exact Nat.le_refl _
    | _ => exact granted.present
  expired := by
    have expired := granted.expired
    intro first now
    cases stepped with
    | escalate _ _ _ due =>
        -- The deadline that has passed is the one of this grace period.
        have fixed := granted.granted first
        have present := granted.present
        grind -ring -linarith
    | _ => grind -ring -linarith

theorem Watch.Granted.timed {watch : Watch} (granted : watch.Granted config)
    (attempted : watch.attempted = true) (stage : watch.stage = .timing) :
    Watch.Granted config { watch with
      stage := .reading
      cancellationDeadline := config.wordDeadline watch.clock
      calls := .gracePeriod watch.clock :: watch.calls } where
  granted := by
    intro first called
    refine ⟨attempted, by simp, ?_⟩
    rcases List.mem_cons.mp called with same | before
    · cases same
      rfl
    · exact absurd stage (granted.granted first before).2.1
  escalated := by
    intro now called
    have before := granted.escalated now (by simpa using called)
    exact ⟨before.1, by simp⟩
  present := granted.present
  expired := by
    intro first now _ called
    -- An escalation comes only after the deadline has been fixed.
    have before := granted.escalated now (by simpa using called)
    exact absurd stage before.2

/-- The bookkeeping holds in every run of the system with words. -/
theorem granted_reached
    (run : Reaches (stepWords config) readable (config.initial token clock) system) :
    system.watch.Granted config := by
  refine run.preserves_with (fun system => system.watch.Flagged)
    (fun system => system.watch.Granted config)
    (fun _ _ _ flagged _ taken => flagged.wordStep (word_step taken)) ?_
    (flagged_initial config token clock) ?_
  · intro system move next flagged granted admitted taken
    have early : system.watch.clock < lastTimePoint.toInt := of_decide_eq_true admitted
    have stepped := word_step taken
    generalize next.watch = after at stepped ⊢
    cases stepped with
    | timed stage => exact granted.timed (flagged.timing stage) stage
    | other stepped stays => exact granted.other flagged early stepped stays
  · constructor <;> simp [System.watch, Config.initial, Place.stage, Locals.initial]

end Runs

/-! ## Soundness -/

/-- What the deadline promises about a grace period that begins at `reading`. -/
structure DeadlineSound (reading : Int64) (grace : UInt64) : Prop where
  /-- It is not earlier than the reading plus the grace period, or saturated. -/
  notEarlier : graceEnd reading grace ≤ (cancellationDeadline reading grace).toInt ∨
    cancellationDeadline reading grace = lastTimePoint
  /-- The test `now >= cancellation_deadline` fails until the grace period has
  elapsed. -/
  test : ∀ now, now < lastTimePoint → cancellationDeadline reading grace ≤ now →
    graceEnd reading grace ≤ now.toInt
  /-- The loop does not escalate before the grace period has elapsed. -/
  loop : ∀ (config : Config) (token : Bool) (clock first now : Nat) (system : System),
    config.gracePeriodMilliseconds = grace.toNat → reading.toInt = first →
    Reaches (stepWords config) readable (config.initial token clock) system →
    Event.gracePeriod first ∈ system.log →
    Event.signalPass .escalation now ∈ system.log → graceEnd reading grace ≤ now

section Soundness

variable {reading : Int64} {grace : UInt64}

theorem graceEnd_le_of_expired
    (notEarlier : graceEnd reading grace ≤ (cancellationDeadline reading grace).toInt ∨
      cancellationDeadline reading grace = lastTimePoint)
    {now : Int64} (early : now < lastTimePoint)
    (expired : cancellationDeadline reading grace ≤ now) :
    graceEnd reading grace ≤ now.toInt := by
  rw [Int64.le_iff_toInt_le] at expired
  rcases notEarlier with before | last
  · exact Int.le_trans before expired
  · rw [Int64.lt_iff_toInt_lt] at early
    rw [last] at expired
    omega

/-- In a run, the deadline is the one of the grace period that begins at the
reading. -/
theorem wordDeadline_eq {config : Config} {first : Nat}
    (sealed : config.gracePeriodMilliseconds = grace.toNat)
    (shown : reading.toInt = first) :
    config.wordDeadline first = keptTimePoint (cancellationDeadline reading grace) := by
  have same : Int64.ofNat first = reading := by
    rw [← Int64.toInt_inj, toInt_ofNat_of_le_last (shown ▸ reading.toInt_le), shown]
  rw [Config.wordDeadline, same, sealed, UInt64.ofNat_toNat]

/-- The deadline keeps its promise exactly when the end of the grace period is a
time point of the clock, or happens to wrap around to the last one. -/
theorem cancellationDeadline_sound_iff (reading : Int64) (grace : UInt64) :
    DeadlineSound reading grace ↔
      graceEnd reading grace ≤ lastTimePoint.toInt ∨
        graceEnd reading grace % Int64.size = lastTimePoint.toInt := by
  rw [← graceEnd_le_iff, ← cancellationDeadline_eq_last_iff]
  constructor
  · exact fun sound => sound.notEarlier
  · intro notEarlier
    refine ⟨notEarlier, fun now => graceEnd_le_of_expired notEarlier, ?_⟩
    intro config token clock first now system sealed shown run begun escalated
    rcases (granted_reached run).expired first now (mem_calls rfl begun)
      (mem_calls rfl escalated) with ⟨early, expired⟩
    rw [wordDeadline_eq sealed shown, passed_keptTimePoint early, decide_eq_true_eq]
      at expired
    have shows := toInt_ofNat_of_le_last (Int.le_of_lt early)
    rw [← shows]
    apply graceEnd_le_of_expired notEarlier _ expired
    rw [Int64.lt_iff_toInt_lt, shows]
    exact early

/-- A grace period of `UINT64_MAX` milliseconds is converted to minus one
millisecond: the deadline lies before the reading, and the group is killed at the
same reading at which it has been asked to end. -/
theorem hugeGrace_escalates_at_once :
    ¬ DeadlineSound 5000000000 18446744073709551615 ∧
      cancellationDeadline 5000000000 18446744073709551615 = 4999000000 ∧
      ∃ system,
        Reaches (stepWords (Config.plain true 18446744073709551615)) readable
          ((Config.plain true 18446744073709551615).initial false 5000000000) system ∧
        Event.gracePeriod 5000000000 ∈ system.log ∧
        Event.signalPass .escalation 5000000000 ∈ system.log := by
  refine ⟨?_, by decide, ?_⟩
  · intro sound
    have missed := sound.notEarlier
    revert missed
    decide
  · have played : (replay (stepWords (Config.plain true 18446744073709551615)) readable
        (releasedStart ++ advanced 3 ++ supervised 15 ++ [.request] ++ supervised 24)
        ((Config.plain true 18446744073709551615).initial false 5000000000)).any
        (fun system => decide (Event.gracePeriod 5000000000 ∈ system.log) &&
          decide (Event.signalPass .escalation 5000000000 ∈ system.log)) = true := by
      decide
    rcases exists_reached played with ⟨system, run, test⟩
    simp only [Bool.and_eq_true, decide_eq_true_eq] at test
    exact ⟨system, run, test.1, test.2⟩

end Soundness

/-! ## Refinement -/

section Refinement

variable {config : Config} {system later : System}

/-- Where `send_cancellation_signal` reads the clock, the end of the grace period
lies before the last time point. -/
def graceFits (config : Config) (system : System) (_ : Move) : Bool :=
  match system.place with
  | .cancellationClock => decide (system.clock + config.grace < lastTimePoint.toInt)
  | _ => true

theorem wordDeadline_of_fits {reading : Nat}
    (fits : reading + config.grace < lastTimePoint.toInt) :
    config.wordDeadline reading = some (reading + config.grace) := by
  have shown := toInt_ofNat_of_le_last (show reading ≤ lastTimePoint.toInt by omega)
  have sealed : (UInt64.ofNat config.gracePeriodMilliseconds).toNat =
      config.gracePeriodMilliseconds := by
    rw [Config.grace, milliseconds, toInt_lastTimePoint] at fits
    exact UInt64.toNat_ofNat_of_lt (show _ < 18446744073709551616 by omega)
  have ends : graceEnd (Int64.ofNat reading) (UInt64.ofNat config.gracePeriodMilliseconds) =
      reading + config.grace := by
    rw [graceEnd, shown, sealed]
    rfl
  have sum := (cancellationDeadline_defined (by omega) (by omega)).2.2.trans ends
  rw [Config.wordDeadline, keptTimePoint, if_neg, sum]
  · congr 1
  · rw [← Int64.toInt_inj, sum]
    omega

/-- As long as every grace period fits, the two supervisors make the same steps. -/
theorem stepWords_eq_step {move : Move} (fits : graceFits config system move = true) :
    stepWords config move system = step config move system := by
  unfold stepWords
  split
  next here =>
    simp only [graceFits, here, decide_eq_true_eq] at fits
    simp only [step, supervisorStep, here]
    rw [System.cancellationClockWords, wordDeadline_of_fits fits]
    rfl
  next => rfl

/-- Every run with words whose grace periods fit is a run of `step`. -/
theorem reaches_of_words {allowed : System → Move → Bool}
    (run : Reaches (stepWords config)
      (fun system move => graceFits config system move && allowed system move) system later) :
    Reaches (step config) allowed system later := by
  refine run.transfer ?_
  intro state move next admitted taken
  rw [Bool.and_eq_true] at admitted
  exact ⟨admitted.2, stepWords_eq_step admitted.1 ▸ taken⟩

/-- A run with words whose grace periods fit is one of the supervisor with unbounded sums,
whatever else is known of its moves, and what the grace period promises there holds in it. -/
theorem wordSupervisor_refines {allowed : System → Move → Bool} {token : Bool} {clock : Nat}
    (run : Reaches (stepWords config)
      (fun system move => graceFits config system move && allowed system move)
      (config.initial token clock) system) :
    Reaches (step config) allowed (config.initial token clock) system ∧
      (config.controlled = true →
        (∀ state move, allowed state move = true → graceKept config state move = true) →
        ∀ first site reading, Event.gracePeriod first ∈ system.log →
          Event.signalPass site reading ∈ system.log → site.signal = .sigkill →
          first + config.grace ≤ reading) := by
  have unbounded := reaches_of_words run
  refine ⟨unbounded, ?_⟩
  intro controlled kept first site reading cancelled made kill
  have keptRun : Reaches (step config) (graceKept config) (config.initial token clock) system :=
    unbounded.transfer fun state move next admitted taken => ⟨kept state move admitted, taken⟩
  exact (patient_reached controlled keptRun).kills first site reading (mem_calls rfl cancelled)
    (mem_calls rfl made) kill

end Refinement

theorem wordSupervisor_refines_escalation :
    ∃ system,
      Reaches (stepWords (Config.plain true 1000))
        (fun system move => graceFits (Config.plain true 1000) system move &&
          graceKept (Config.plain true 1000) system move)
        ((Config.plain true 1000).initial false 0) system ∧
      Event.gracePeriod 0 ∈ system.log ∧
      Event.signalPass .escalation 1000000000 ∈ system.log ∧
      0 + (Config.plain true 1000).grace ≤ 1000000000 := by
  have played : (replay (stepWords (Config.plain true 1000))
      (fun system move => graceFits (Config.plain true 1000) system move &&
        graceKept (Config.plain true 1000) system move)
      patientEscalation ((Config.plain true 1000).initial false 0)).any
      (fun system => decide (Event.gracePeriod 0 ∈ system.log) &&
        decide (Event.signalPass .escalation 1000000000 ∈ system.log)) = true := by
    decide
  rcases exists_reached played with ⟨system, run, test⟩
  simp only [Bool.and_eq_true, decide_eq_true_eq] at test
  exact ⟨system, run, test.1, test.2, (wordSupervisor_refines run).2 rfl
    (fun _ _ kept => kept) 0 .escalation 1000000000 test.1 test.2 rfl⟩

end PkgexecLinux.Supervisor

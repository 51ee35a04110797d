import PkgexecLinux.Supervisor.FailureRecord
import PkgexecLinux.Supervisor.Termination

/-!
# The failure record is received

The supervisor reads the record in its loop, and it comes to an end of the loop: once the
child has ended, what the child has written of its record is in the buffer when the
supervisor classifies the execution.
-/

namespace PkgexecLinux.Supervisor

open Foundation Kernel Process

variable {config : Config} {token : Bool} {clock limit : Nat} {system next : System}

/-! ## The way out of the loop -/

/-- Legs of the loop with the opening of the gate. -/
@[grind] def Leg.within (leg : Leg) : Bool := leg.looping || leg == .gateCheck || leg == .writing

theorem within_iff_inLoop (place : Place) : place.leg.within = place.inLoop := by
  cases place with
  | signalling site pass => cases site <;> rfl
  | _ => rfl

/-- The supervisor leaves its loop with an exception, with `SIGPIPE`, or for the
verification of the cleanup. -/
theorem leg_of_leaving {move : Move} {course after : Course} (inside : course.leg.within = true)
    (stepped : CourseStep system move course after) (outside : after.leg.within = false) :
    after.leg = .verifying ∨ after.leg = .threw ∧ system.drainThrows move = true ∨
      after.leg = .terminated ∧ course.leg = .writing := by
  cases stepped <;> grind -ring -linarith

theorem place_of_verifying {place : Place} (leg : place.leg = .verifying) :
    place = .verifyParentCleanup := by
  cases place with
  | verifyParentCleanup => rfl
  | signalling site pass => cases site <;> cases leg
  | _ => cases leg

theorem place_of_writing {place : Place} (leg : place.leg = .writing) : place = .writeStart := by
  cases place with
  | writeStart => rfl
  | signalling site pass => cases site <;> cases leg
  | _ => cases leg

/-- Behind a failure of the child the gate is not opened, so that no `SIGPIPE` comes. -/
theorem verifying_of_leaving {move : Move} (sound : system.GateSound)
    (ungated : system.gate.Ungated) (calm : system.drainThrows move = false)
    (taken : step config move system = some next) (inside : system.place.inLoop = true)
    (outside : next.place.inLoop = false) : next.place = .verifyParentCleanup := by
  rw [← within_iff_inLoop] at inside outside
  rcases leg_of_leaving inside (course_step sound taken) outside with
    verifying | ⟨_, throws⟩ | ⟨_, writing⟩
  · exact place_of_verifying verifying
  · rw [calm] at throws
    cases throws
  · have here : system.gate.region = .releasing := by
      rw [System.gate, place_of_writing writing]
      rfl
    obtain ⟨seen, withheld⟩ := sound.1.gating (.inr here)
    rcases ungated with released | ⟨_, unseen, _⟩
    · exact absurd (released.symm.trans withheld) (by decide)
    · exact absurd (seen.symm.trans unseen) (by decide)

/-! ## Runs behind a report -/

theorem ungated_of_run {allowed : System → Move → Bool} {begun : System} {failure : ChildError}
    {status : UInt32} (setup : Reaches (step config) allowed (config.initial token clock) begun)
    (reporting : begun.child.phase = .reporting failure.bytes status) : begun.gate.Ungated := by
  refine setup.preserves_with System.GateSound
    (fun system => ∀ record status, system.gate.phase = .reporting record status →
      system.gate.Ungated) ?_ ?_ (gateSound_initial config token clock) ?_ _ _ reporting
  · intro state move next sound _ taken
    exact gateSound_step sound taken
  · intro state move next sound ungated _ taken
    exact ungated_of_report sound.1 sound.2 ungated (gate_step taken)
  · intro record status phase
    cases phase

theorem ungated_run {allowed : System → Move → Bool} {begun : System}
    (sound : begun.GateSound) (ungated : begun.gate.Ungated)
    (run : Reaches (step config) allowed begun system) :
    system.GateSound ∧ system.gate.Ungated := by
  refine run.preserves (fun system => system.GateSound ∧ system.gate.Ungated) ?_ ⟨sound, ungated⟩
  intro state move next ⟨sound, ungated⟩ _ taken
  exact ⟨gateSound_step sound taken, ungated.step sound.1 (gate_step taken)⟩

/-- What an execution needs for its loop to end: sooner or later the child has ended and
nobody is left to write, the supervisor goes on, hears of the exit and can store what it
reads. -/
structure Settles (config : Config) (limit : Nat) (execution : Execution (step config)) :
    Prop where
  quiet : ∃ moment, (execution.state moment).Quiet
  bounded : ∀ moment, (execution.state moment).Bounded limit
  time : ∀ time, ∃ moment, time ≤ (execution.state moment).clock
  often : ∀ moment, ∃ later, moment ≤ later ∧
    ((execution.state later).place.inLoop = false ∨ advances (execution.move later) = true)
  heard : ∀ moment, exitHeard (execution.state moment) (execution.move moment) = true
  calm : ∀ moment, (execution.state moment).drainThrows (execution.move moment) = false

/-- An execution that settles does not stay in the loop. -/
theorem Settles.leaves {execution : Execution (step config)}
    (settles : Settles config limit execution)
    (reached : Reaches (step config) unrestricted (config.initial token clock)
      (execution.state 0)) :
    ∃ moment, (execution.state moment).place.inLoop = false := by
  by_contra endless
  have inside : ∀ moment, (execution.state moment).place.inLoop = true := by
    intro moment
    by_contra outside
    exact endless ⟨moment, eq_false_of_ne_true outside⟩
  obtain ⟨start, quiet⟩ := settles.quiet
  have late : Endless config limit (execution.drop start) := by
    refine endless_of_inside (reached.trans (execution.reaches start))
      (fun moment => inside (start + moment)) quiet
      (fun moment => settles.bounded (start + moment)) ?_ ?_
      (fun moment => settles.heard (start + moment))
    · intro time
      obtain ⟨moment, late⟩ := settles.time time
      exact ⟨moment, le_trans late (Endless.clock_mono execution (Nat.le_add_left moment start))⟩
    · intro moment
      obtain ⟨later, order, outside | advancing⟩ := settles.often (start + moment)
      · rw [inside] at outside
        cases outside
      · refine ⟨later - start, by omega, ?_⟩
        have same : start + (later - start) = later := by omega
        show advances (execution.move (start + (later - start))) = true
        rw [same]
        exact advancing
  exact late.impossible

/-- The failure record survives any fragmentation.  A pass over the control pipe takes all
that the child has written so far.  When the supervisor verifies the cleanup, it decodes a
record that the child wrote to the end as it was, and reports one that was only begun as
truncated; and from its loop it comes to that point.  The buffer is never overrun, and as
long as the descriptor is open a read asks for at least one byte. -/
theorem failureRecord_survives (config : Config) (token : Bool) (clock : Nat) :
    (∀ (begun system : System) (failure : ChildError) (status : UInt32) (moves : List Move),
      Reaches (step config) controlReadable (config.initial token clock) begun →
      begun.child.phase = .reporting failure.bytes status →
      replay (step config) controlReadable moves begun = some system →
      reported config moves begun <+: failure.bytes ∧
        (∀ answer next, system.place = .readControl →
          controlReadable system (.supervisor answer) = true →
          step config (.supervisor answer) system = some next → next.place ≠ .readControl →
          next.locals.controlBytes = reported config moves begun) ∧
        (system.place = .verifyParentCleanup →
          Received config failure (reported config moves begun) system.locals) ∧
        ∀ limit (execution : Execution (step config)), execution.state 0 = system →
          system.place.inLoop = true → Settles config limit execution →
          (∀ moment,
            controlReadable (execution.state moment) (execution.move moment) = true) →
          ∃ moment, (execution.state moment).place = .verifyParentCleanup ∧
            Received config failure
              (reported config (moves ++ (List.range moment).map execution.move) begun)
              (execution.state moment).locals ∧
            (reported config moves begun = failure.bytes →
              Received config failure failure.bytes (execution.state moment).locals)) ∧
      ∀ system, Reaches (step config) unrestricted (config.initial token clock) system →
        system.locals.controlBytes.length ≤ ChildError.size ∧
          (system.locals.controlOpen = true →
            0 < ChildError.size - system.locals.controlBytes.length) := by
  constructor
  · intro begun system failure status moves setup reporting played
    have conveying := conveying_run setup
    have verified : ∀ {moves : List Move} {system : System},
        replay (step config) controlReadable moves begun = some system →
        system.place = .verifyParentCleanup →
        Received config failure (reported config moves begun) system.locals := by
      intro moves system played here
      have run := setup.trans (reaches_of_replay played)
      -- The loop is left with the descriptor closed: nothing is in the pipe any more.
      have shut : system.locals.controlOpen = false :=
        ((conveying_run run).sound.1.verifying (by simp [System.gate, here, Place.region])).2
      have received := controlBytes_of_drained conveying reporting played
        ((sealed_run run).empty shut)
      have start := (reported_run conveying reporting played).2.start
      rw [← received] at start ⊢
      exact received_of_bytes start
    refine ⟨(reported_run conveying reporting played).2.start, ?_, verified played, ?_⟩
    · intro answer next here readable taken left
      have run := setup.trans (reaches_of_replay played)
      obtain ⟨drained, same⟩ := drained_of_readControl (conveying_run run).conveyed
        (sealed_run run) here readable taken left
      rw [same]
      exact controlBytes_of_drained conveying reporting played drained
    · rintro limit execution rfl inside settles readable
      have run : Reaches (step config) unrestricted (config.initial token clock)
          (execution.state 0) :=
        (setup.trans (reaches_of_replay played)).transfer fun _ _ _ _ taken => ⟨rfl, taken⟩
      obtain ⟨last, here, outside⟩ := execution.exists_leaving
        (fun system => system.place.inLoop) inside (settles.leaves run)
      have behind := ungated_run conveying.sound (ungated_of_run setup reporting)
        (reaches_of_replay played)
      obtain ⟨sound, ungated⟩ := ungated_run behind.1 behind.2 (execution.reaches last)
      have arrived := verifying_of_leaving sound ungated (settles.calm last)
        (execution.taken last) here outside
      have whole : replay (step config) controlReadable
          (moves ++ (List.range (last + 1)).map execution.move) begun =
          some (execution.state (last + 1)) := by
        rw [replay_append, played]
        exact execution.replays readable (last + 1)
      have received := verified whole arrived
      refine ⟨last + 1, arrived, received, ?_⟩
      intro complete
      have longer := reported_append ((List.range (last + 1)).map execution.move) played
      have bounded := (reported_run conveying reporting whole).2.start
      rw [complete] at longer
      rwa [bounded.eq_of_length_le longer.length_le] at received
  · intro system run
    have conveyed := (conveying_run run).conveyed
    constructor
    · have bounded := conveyed.bounded
      rw [Gate.recorded, List.length_append] at bounded
      exact Nat.le_trans (Nat.le_add_right _ _) bounded
    · intro opened
      exact Nat.sub_pos_of_lt (conveyed.opened opened)

/-! ## A broken report -/

/-- No read is refused. -/
theorem alternation_readable (config : Config) (first : System) (moment : Nat) :
    controlReadable ((alternation config first).state moment)
      ((alternation config first).move moment) = true := by
  rw [alternation_move, alternating]
  split <;> rfl

/-- The child's first setup step fails. -/
def failedSetup : List Move := supervised 9 ++ [.child (.fail 1 0)]

/-- The record goes out in three pieces, with an interruption, while the supervisor reads
it in others over two turns of its loop; then the child ends. -/
def brokenReport : List Move :=
  [.child (.count 5)] ++ supervised 13 ++ [.supervisor (.count 2), .supervisor .interrupted] ++
    supervised 4 ++ [.child .interrupted, .child (.count 3), .child .succeed, .child .succeed]

theorem failureRecord_survives_broken :
    ∃ begun ended system,
      Reaches (step (Config.plain false 0)) controlReadable
        ((Config.plain false 0).initial false 0) begun ∧
      begun.child.phase = .reporting (ChildError.bytes ⟨0, 1, 0⟩) 125 ∧
      replay (step (Config.plain false 0)) controlReadable brokenReport begun = some ended ∧
      ended.place.inLoop = true ∧ ended.locals.controlBytes.length = 5 ∧
      reported (Config.plain false 0) brokenReport begun = ChildError.bytes ⟨0, 1, 0⟩ ∧
      Reaches (step (Config.plain false 0)) controlReadable ended system ∧
      system.place = .verifyParentCleanup ∧
      ChildError.ofBytes system.locals.controlBytes = some ⟨0, 1, 0⟩ := by
  have played : (replay (step (Config.plain false 0)) controlReadable failedSetup
      ((Config.plain false 0).initial false 0)).any (fun begun =>
        begun.child.phase == .reporting (ChildError.bytes ⟨0, 1, 0⟩) 125 &&
        reported (Config.plain false 0) brokenReport begun == ChildError.bytes ⟨0, 1, 0⟩ &&
        (replay (step (Config.plain false 0)) controlReadable brokenReport begun).any
          fun ended => ended.settling && ended.locals.controlBytes.length == 5 &&
            ended.child.phase == .zombie (.exited 125)) = true := by
    decide
  rcases exists_reached played with ⟨begun, setup, test⟩
  simp only [Bool.and_eq_true, beq_iff_eq] at test
  rcases test with ⟨⟨reporting, whole⟩, reached⟩
  rcases (Option.any_eq_true _ _).mp reached with ⟨ended, played, test⟩
  simp only [Bool.and_eq_true, beq_iff_eq] at test
  rcases test with ⟨⟨settling, size⟩, zombie⟩
  obtain ⟨inside, quiet, alone⟩ := quiet_of_settling settling
  have readable := alternation_readable (Config.plain false 0) ended
  have survives := (failureRecord_survives (Config.plain false 0) false 0).1 begun ended _ _ _
    setup reporting played
  obtain ⟨moment, arrived, _, received⟩ := survives.2.2.2 _ (alternation _ ended) rfl inside
    ⟨⟨0, quiet⟩, alternation_bounded _ ended alone, alternation_time _ ended,
      alternation_often _ ended, alternation_heard _ ended (.inr ⟨_, zombie⟩),
      alternation_calm _ ended⟩ readable
  refine ⟨begun, ended, _, setup, reporting, played, inside, size, whole,
    reaches_of_replay ((alternation _ ended).replays readable moment), arrived,
    ((received whole).whole rfl).1⟩

end PkgexecLinux.Supervisor

import PkgexecLinux.Foundation.Progress
import PkgexecLinux.Supervisor.Custody
import PkgexecLinux.Supervisor.IdleTurn

/-!
# The supervisor loop ends

Once the child has ended and nobody is left to write, the loop ends, provided that
`waitid` tells the supervisor about the exit.  A turn then either passes one of four
milestones of the cleanup or leaves only a deadline to wait for, and the clock passes
that.  A child that somebody else has waited for is never heard of again, and the loop
turns for ever.
-/

namespace PkgexecLinux.Supervisor

open Foundation Kernel Process

variable {config : Config} {token : Bool} {clock limit : Nat} {system next : System}

/-! ## What every reachable state has -/

theorem clock_step {move : Move} (taken : step config move system = some next) :
    system.clock ≤ next.clock := by
  have stepped := watch_step taken
  show system.watch.clock ≤ next.watch.clock
  generalize next.watch = after at stepped ⊢
  cases stepped with
  | tick duration => exact Nat.le_add_right _ _
  | _ => exact le_refl _

/-- An observed exit stays observed. -/
theorem exited_step {move : Move} (taken : step config move system = some next)
    (exited : system.locals.childExited = true) : next.locals.childExited = true := by
  have stepped := watch_step taken
  have before : system.watch.exited = true := exited
  show next.watch.exited = true
  generalize next.watch = after at stepped ⊢
  cases stepped with
  | exitObserved => rfl
  | _ => exact before

theorem prompt_step {move : Move} (prompt : system.Prompt)
    (taken : step config move system = some next) : next.Prompt := by
  intro wait waits
  have later := clock_step taken
  have scan : next.sweep.scan = some wait := by simp [System.sweep, waits, Place.scan?]
  have stepped := sweep_step taken
  generalize next.sweep = after at stepped scan
  cases stepped with
  | start clock here =>
      cases move with
      | supervisor answer =>
          simp only [step, supervisorStep, here, Option.some.injEq] at taken
          subst taken
          cases waits
          exact le_refl _
      | _ =>
          rw [place_step (by intro answer same; cases same) taken, here] at waits
          cases waits
  | advance answer clock before after _ here _ stepped =>
      cases scan
      rw [GroupWait.deadline_step stepped]
      exact le_trans (prompt before here) later
  | gone => cases scan
  | remaining => cases scan
  | _ =>
      have here := waiting_of_scan scan
      exact le_trans (prompt wait here) later

theorem dated_initial (config : Config) (token : Bool) (clock : Nat) :
    (config.initial token clock).watch.Dated config := by
  constructor <;> simp [System.watch, Config.initial, Locals.initial, Place.stage]

theorem reachable_dated_prompt
    (run : Reaches (step config) unrestricted (config.initial token clock) system) :
    system.watch.Dated config ∧ system.Prompt := by
  refine run.preserves (fun system => system.watch.Dated config ∧ system.Prompt) ?_ ?_
  · intro state move next holds _ taken
    exact ⟨holds.1.step (watch_step taken), prompt_step holds.2 taken⟩
  · refine ⟨dated_initial config token clock, ?_⟩
    intro wait waits
    cases waits

/-! ## No quiet execution stays in the loop -/

/-- The supervisor makes a call that is not interrupted, or decides. -/
def advances : Move → Bool
  | .supervisor answer => answer != .interrupted
  | _ => false

/-- A quiet execution that never leaves the loop, although it hears of the exit. -/
structure Endless (config : Config) (limit : Nat) (execution : Execution (step config)) :
    Prop where
  inside : ∀ moment, (execution.state moment).place.inLoop = true
  quiet : ∀ moment, (execution.state moment).Quiet
  dated : ∀ moment, (execution.state moment).watch.Dated config
  prompt : ∀ moment, (execution.state moment).Prompt
  bounded : ∀ moment, (execution.state moment).Bounded limit
  heard : ∀ moment, exitHeard (execution.state moment) (execution.move moment) = true
  time : ∀ time, ∃ moment, time ≤ (execution.state moment).clock
  often : ∀ moment, ∃ later, moment ≤ later ∧ advances (execution.move later) = true

namespace Endless

variable {execution : Execution (step config)}

/-- Along an endless execution a turn gets shorter until the next one begins. -/
theorem shortens (endless : Endless config limit execution) (moment : Nat) :
    ((execution.state moment).place = .loopEnd ∧
        (execution.state (moment + 1)).place = .loopHead) ∨
      (execution.state (moment + 1)).turn limit ≤ (execution.state moment).turn limit ∧
        (advances (execution.move moment) = true →
          (execution.state (moment + 1)).turn limit < (execution.state moment).turn limit) := by
  have taken := execution.taken moment
  cases made : execution.move moment with
  | supervisor answer =>
      rw [made] at taken
      rcases shortens_supervisorStep (endless.inside moment) (endless.quiet moment)
        (endless.bounded moment) (endless.prompt moment) taken with
        turns | ⟨interrupted, same⟩ | less
      · exact .inl turns
      · right
        rw [same]
        refine ⟨le_refl _, ?_⟩
        intro advancing
        simp [advances, interrupted] at advancing
      · exact .inr ⟨le_of_lt less, fun _ => less⟩
  | _ =>
      right
      rw [made] at taken
      obtain ⟨_, _, _, _, _, _, _, next⟩ := quiet_environment (endless.quiet moment)
        (by intro answer same; cases same) taken
      rw [next]
      refine ⟨le_refl _, ?_⟩
      intro advancing
      cases advancing

/-- Every turn comes to its end. -/
theorem turns (endless : Endless config limit execution) (start : Nat) :
    ∃ moment, start ≤ moment ∧ (execution.state moment).place = .loopHead := by
  refine execution.eventually (fun _ => True) (fun system => system.place = .loopHead)
    (System.turn limit) (fun moment => advances (execution.move moment) = true)
    endless.often ?_ ?_ trivial
  · intro moment _ _
    rcases endless.shortens moment with ⟨_, head⟩ | ⟨below, _⟩
    · exact .inl head
    · exact .inr ⟨trivial, below⟩
  · intro moment _ _ advancing
    rcases endless.shortens moment with ⟨_, head⟩ | ⟨_, less⟩
    · exact .inl head
    · exact .inr (less advancing)

theorem clock_mono (execution : Execution (step config)) {early late : Nat}
    (order : early ≤ late) :
    (execution.state early).clock ≤ (execution.state late).clock := by
  induction late, order using Nat.le_induction with
  | base => exact le_refl _
  | succ late _ ih => exact le_trans ih (clock_step (execution.taken late))

/-- Milestones are passed one after the other. -/
theorem pending_mono (endless : Endless config limit execution) {early late : Nat}
    (order : early ≤ late) :
    (execution.state late).watch.pending config ≤
      (execution.state early).watch.pending config := by
  induction late, order using Nat.le_induction with
  | base => exact le_refl _
  | succ late _ ih =>
      rcases milestones_step (endless.dated late) (watch_step (execution.taken late)) with
        same | less
      · refine le_trans (le_of_eq ?_) ih
        simp only [Watch.milestones, Prod.mk.injEq] at same
        simp only [Watch.pending, same]
      · omega

/-- As long as no milestone is passed, the cleanup deadline is kept. -/
theorem still_or_pending (endless : Endless config limit execution) {early late : Nat}
    (head : (execution.state early).place = .loopHead) (order : early ≤ late) :
    (execution.state late).watch.pending config <
        (execution.state early).watch.pending config ∨
      (execution.state late).watch.Still config (execution.state early).watch := by
  induction late, order using Nat.le_induction with
  | base => exact .inr ⟨rfl, rfl, by simp [System.watch, head, Place.stage],
      by simp [System.watch, head, Place.stage]⟩
  | succ late order ih =>
      have stepped := watch_step (execution.taken late)
      rcases ih with less | still
      · have := endless.pending_mono (Nat.le_add_right late 1)
        exact .inl (by omega)
      · rcases milestones_step (endless.dated late) stepped with same | less
        · exact .inr (still.step stepped (same.trans still.same))
        · have := endless.pending_mono order
          exact .inl (by omega)

/-- No further turn follows an idle one. -/
theorem never_turns {moment : Nat} {first : System}
    (idle : Idle config first (execution.state moment)) :
    ¬((execution.state moment).place = .loopEnd ∧
      (execution.state (moment + 1)).place = .loopHead) := by
  rintro ⟨here, head⟩
  have done := finished_of_idle idle here
  have taken := execution.taken moment
  cases made : execution.move moment with
  | supervisor answer =>
      rw [made] at taken
      simp only [step, supervisorStep, here, done, Option.some.injEq] at taken
      rw [← taken] at head
      cases head
  | _ =>
      rw [made] at taken
      rw [place_step (by intro answer same; cases same) taken, here] at head
      cases head

/-- A turn that begins with the cleanup deadline over passes a milestone. -/
theorem idle_turn (endless : Endless config limit execution) {start : Nat}
    (head : (execution.state start).place = .loopHead)
    (elapsed : ∀ due ∈ (execution.state start).locals.cleanupDeadline,
      due ≤ (execution.state start).clock) :
    ∃ moment, start ≤ moment ∧ (execution.state moment).watch.pending config <
      (execution.state start).watch.pending config := by
  have idleAtHead : Idle config (execution.state start) (execution.state start) := by
    refine ⟨?_, elapsed, ⟨rfl, rfl, by simp [System.watch, head, Place.stage],
      by simp [System.watch, head, Place.stage]⟩, ?_⟩
    · intro started
      exact (endless.dated start).started started (by simp [System.watch, head, Place.stage])
    · intro place above
      apply settledAt_of_absent
      simp only [head, Place.ahead] at above
      simp only [attending, List.mem_cons, List.not_mem_nil, or_false]
      omega
  have onward : ∀ moment, start ≤ moment →
      Idle config (execution.state start) (execution.state moment) →
      (execution.state (moment + 1)).watch.pending config <
          (execution.state start).watch.pending config ∨
        Idle config (execution.state start) (execution.state (moment + 1)) := by
    intro moment order idle
    have taken := execution.taken moment
    cases made : execution.move moment with
    | supervisor answer =>
        have heard := endless.heard moment
        rw [made] at taken heard
        rcases idle_supervisorStep (endless.inside moment) idle (endless.quiet moment)
          (endless.dated moment) heard taken with outside | changed | idle
        · rw [endless.inside] at outside
          cases outside
        · left
          rcases milestones_step (endless.dated moment) (watch_supervisorStep taken) with
            same | less
          · exact absurd (same.trans idle.still.same) changed
          · have := endless.pending_mono order
            omega
        · exact .inr idle
    | _ =>
        rw [made] at taken
        exact .inr (idle_environment idle (endless.quiet moment)
          (by intro answer same; cases same) taken)
  refine execution.eventually (Idle config (execution.state start))
    (fun system => system.watch.pending config <
      (execution.state start).watch.pending config)
    (System.turn limit) (fun moment => advances (execution.move moment) = true)
    endless.often ?_ ?_ idleAtHead
  · intro moment order idle
    rcases onward moment order idle with less | next
    · exact .inl less
    · rcases endless.shortens moment with turns | ⟨below, _⟩
      · exact absurd turns (never_turns idle)
      · exact .inr ⟨next, below⟩
  · intro moment order idle advancing
    rcases endless.shortens moment with turns | ⟨_, less⟩
    · exact absurd turns (never_turns idle)
    · exact .inr (less advancing)

/-- There is no such execution: the milestones run out. -/
theorem impossible (endless : Endless config limit execution) : False := by
  suffices descends : ∀ count moment,
      (execution.state moment).watch.pending config = count → False from
    descends _ 0 rfl
  intro count
  induction count using Nat.strong_induction_on with
  | _ count ih =>
      intro moment equal
      obtain ⟨head, fromMoment, atHead⟩ := endless.turns moment
      obtain ⟨due, late⟩ := endless.time
        ((execution.state head).locals.cleanupDeadline.getD 0)
      obtain ⟨start, fromBoth, atStart⟩ := endless.turns (max head due)
      have fromHead : head ≤ start := le_trans (le_max_left head due) fromBoth
      have fromDue : due ≤ start := le_trans (le_max_right head due) fromBoth
      have headPending := endless.pending_mono fromMoment
      rcases endless.still_or_pending atHead fromHead with less | still
      · exact ih _ (by omega) start rfl
      · have elapsed : ∀ deadline ∈ (execution.state start).locals.cleanupDeadline,
            deadline ≤ (execution.state start).clock := by
          intro deadline found
          have same : (execution.state head).locals.cleanupDeadline = some deadline :=
            still.deadline.symm.trans found
          rw [same] at late
          exact le_trans late (clock_mono execution fromDue)
        obtain ⟨passed, fromStart, less⟩ := endless.idle_turn atStart elapsed
        have startPending := endless.pending_mono fromHead
        exact ih _ (by omega) passed rfl

end Endless

/-- What keeps an execution in the loop once the child has ended and nobody is left to
write. -/
theorem endless_of_inside {execution : Execution (step config)}
    (reached : Reaches (step config) unrestricted (config.initial token clock)
      (execution.state 0))
    (inside : ∀ moment, (execution.state moment).place.inLoop = true)
    (quiet : (execution.state 0).Quiet)
    (bounded : ∀ moment, (execution.state moment).Bounded limit)
    (time : ∀ time, ∃ moment, time ≤ (execution.state moment).clock)
    (often : ∀ moment, ∃ later, moment ≤ later ∧ advances (execution.move later) = true)
    (heard : ∀ moment, exitHeard (execution.state moment) (execution.move moment) = true) :
    Endless config limit execution := by
  have support (moment : Nat) := reachable_dated_prompt (reached.trans (execution.reaches moment))
  refine ⟨inside, ?_, fun moment => (support moment).1, fun moment => (support moment).2,
    bounded, heard, time, often⟩
  intro moment
  refine execution.lasts System.Quiet ?_ quiet moment (Nat.zero_le moment)
  intro moment _ quiet
  have taken := execution.taken moment
  cases made : execution.move moment with
  | supervisor answer =>
      rw [made] at taken
      exact (frame_supervisorStep (inside moment) taken).quiet quiet
  | _ =>
      rw [made] at taken
      obtain ⟨_, _, _, _, _, _, ended, next⟩ := quiet_environment quiet
        (by intro answer same; cases same) taken
      rw [next]
      exact ⟨ended, quiet.control, quiet.ready, quiet.output, quiet.error⟩

/-- The loop ends once the child has ended and nobody is left to write, provided that no
`waitid` about the child fails.  `limit` is the largest process id the kernel gives out. -/
theorem loop_ends {execution : Execution (step config)}
    (reached : Reaches (step config) unrestricted (config.initial token clock)
      (execution.state 0))
    (quiet : (execution.state 0).Quiet)
    (bounded : ∀ moment, (execution.state moment).Bounded limit)
    (time : ∀ time, ∃ moment, time ≤ (execution.state moment).clock)
    (often : ∀ moment, ∃ later, moment ≤ later ∧
      ((execution.state later).place.inLoop = false ∨ advances (execution.move later) = true))
    (heard : ∀ moment, exitHeard (execution.state moment) (execution.move moment) = true) :
    ∃ moment, (execution.state moment).place.inLoop = false := by
  by_contra endless
  have inside : ∀ moment, (execution.state moment).place.inLoop = true := by
    intro moment
    by_contra outside
    exact endless ⟨moment, eq_false_of_ne_true outside⟩
  have turning : ∀ moment, ∃ later, moment ≤ later ∧ advances (execution.move later) = true := by
    intro moment
    obtain ⟨later, order, outside | advancing⟩ := often moment
    · rw [inside] at outside
      cases outside
    · exact ⟨later, order, advancing⟩
  exact (endless_of_inside reached inside quiet bounded time turning heard).impossible

/-! ## A child that somebody else has waited for -/

/-- Legs of the loop other than the opening of the gate. -/
@[grind] def Leg.looping : Leg → Bool
  | .head | .exitCheck | .cancelCheck | .gate | .scanning | .checking | .lastPass
  | .cleaning _ | .rest => true
  | .admission | .opening | .killing | .abandoning | .gateCheck | .writing | .verifying
  | .finished _ | .threw | .terminated => false

theorem inLoop_of_looping (looping : system.place.leg.looping = true) :
    system.place.inLoop = true := by
  cases place : system.place with
  | signalling site pass => cases site <;> rfl
  | _ => first | rfl | simp [place, Place.leg, Leg.looping] at looping

/-- The child is gone, and the supervisor has not observed its exit. -/
structure Course.Abandoned (course : Course) : Prop where
  looping : course.leg.looping = true
  gone : course.gone = true
  unheard : course.exited = false
  unreaped : course.reaped = false
  released : course.released = true

theorem Course.Abandoned.step {move : Move} {next : Course} (abandoned : system.course.Abandoned)
    (calm : system.drainThrows move = false)
    (stepped : CourseStep system move system.course next) : next.Abandoned := by
  have silent : system.findsExit move = false := by
    have gone := abandoned.gone
    simp only [System.course, beq_iff_eq] at gone
    cases move with
    | supervisor answer => cases answer <;> simp [System.findsExit, gone]
    | _ => rfl
  obtain ⟨looping, gone, unheard, unreaped, released⟩ := abandoned
  constructor <;> cases stepped <;> grind -ring -linarith

/-- The loop never ends for an abandoned child, unless a string cannot grow. -/
theorem abandoned_loops (execution : Execution (step config))
    (sound : (execution.state 0).GateSound) (abandoned : (execution.state 0).course.Abandoned)
    (calm : ∀ moment, (execution.state moment).drainThrows (execution.move moment) = false)
    (moment : Nat) : (execution.state moment).place.inLoop = true := by
  have kept : (execution.state moment).GateSound ∧
      (execution.state moment).course.Abandoned := by
    refine execution.lasts (fun system => system.GateSound ∧ system.course.Abandoned) ?_
      ⟨sound, abandoned⟩ moment (Nat.zero_le moment)
    intro moment _ ⟨sound, abandoned⟩
    have taken := execution.taken moment
    exact ⟨gateSound_step sound taken, abandoned.step (calm moment) (course_step sound taken)⟩
  exact inLoop_of_looping kept.2.looping

/-! ## Two executions -/

/-- The supervisor and the clock take turns; after the loop only time passes. -/
def alternating (moment : Nat) (system : System) : Move :=
  if system.place.inLoop && moment % 2 == 0 then .supervisor .done else .tick 1

theorem alternating_enabled (moment : Nat) (system : System) :
    ∃ next, step config (alternating moment system) system = some next := by
  rw [alternating]
  split
  next inside =>
    simp only [Bool.and_eq_true] at inside
    simp only [step]
    cases place : system.place <;> simp_all [supervisorStep, Place.inLoop, Place.ahead]
  next => exact ⟨_, rfl⟩

def alternation (config : Config) (first : System) : Execution (step config) :=
  .ofSchedule alternating first (fun _ => True) trivial fun moment state _ =>
    (alternating_enabled moment state).imp fun _ taken => ⟨taken, trivial⟩

section Alternation

variable (config : Config) (first : System)

theorem alternation_move (moment : Nat) :
    (alternation config first).move moment =
      alternating moment ((alternation config first).state moment) := rfl

/-- Time passes. -/
theorem alternation_time (time : Nat) :
    ∃ moment, time ≤ ((alternation config first).state moment).clock := by
  suffices paced : time ≤ ((alternation config first).state (2 * time)).clock from
    ⟨2 * time, paced⟩
  induction time with
  | zero => exact Nat.zero_le _
  | succ time ih =>
      have onward := clock_step ((alternation config first).taken (2 * time))
      have ticks := (alternation config first).taken (2 * time + 1)
      have odd : alternating (2 * time + 1) ((alternation config first).state (2 * time + 1)) =
          .tick 1 := by
        have : (2 * time + 1) % 2 = 1 := by omega
        simp [alternating, this]
      rw [alternation_move, odd] at ticks
      simp only [step, Option.some.injEq] at ticks
      have later : ((alternation config first).state (2 * time + 1 + 1)).clock =
          ((alternation config first).state (2 * time + 1)).clock + 1 := by
        rw [← ticks]
      show time + 1 ≤ ((alternation config first).state (2 * time + 1 + 1)).clock
      omega

/-- The supervisor is never left waiting. -/
theorem alternation_often (moment : Nat) :
    ∃ later, moment ≤ later ∧
      (((alternation config first).state later).place.inLoop = false ∨
        advances ((alternation config first).move later) = true) := by
  refine ⟨2 * moment, by omega, ?_⟩
  cases inside : ((alternation config first).state (2 * moment)).place.inLoop with
  | false => exact .inl rfl
  | true =>
      right
      have even : 2 * moment % 2 = 0 := by omega
      simp [alternation_move, alternating, inside, even, advances]

/-- No process comes or goes. -/
theorem alternation_table (moment : Nat) :
    ((alternation config first).state moment).table = first.table := by
  refine (alternation config first).lasts (fun system => system.table = first.table) ?_ rfl
    moment (Nat.zero_le moment)
  intro moment _ same
  rcases table_step ((alternation config first).taken moment) with kept | ⟨given, made, _⟩
  · exact kept.trans same
  · rw [alternation_move, alternating] at made
    split at made <;> cases made

theorem alternation_bounded (alone : first.table.entries = []) (moment : Nat) :
    ((alternation config first).state moment).Bounded first.table.leader := by
  intro pid listed
  rw [alternation_table] at listed
  simp only [ProcessTable.listed, alone, List.map_nil, List.nil_append] at listed
  split at listed
  · cases listed
  · exact le_of_eq (List.mem_singleton.mp listed)

/-- Every string can grow. -/
theorem alternation_calm (moment : Nat) :
    ((alternation config first).state moment).drainThrows
      ((alternation config first).move moment) = false := by
  rw [alternation_move, alternating]
  split <;> rfl

/-- The exit has been observed, or can still be. -/
def System.Waitable (system : System) : Prop :=
  system.locals.childExited = true ∨ ∃ information, system.child.phase = .zombie information

/-- Nobody else waits for the child. -/
theorem alternation_waitable (waitable : first.Waitable) (moment : Nat) :
    ((alternation config first).state moment).Waitable := by
  have start : ((alternation config first).state 0).Waitable := waitable
  refine (alternation config first).lasts System.Waitable ?_ start moment (Nat.zero_le moment)
  intro moment _ waitable
  have taken := (alternation config first).taken moment
  rcases waitable with exited | ⟨information, zombie⟩
  · exact .inl (exited_step taken exited)
  · have made := alternation_move config first moment
    unfold alternating at made
    split at made
    next inside =>
      simp only [Bool.and_eq_true] at inside
      rw [made] at taken
      rcases (frame_supervisorStep inside.1 taken).phase with same | exited
      · exact .inr ⟨information, same.trans zombie⟩
      · exact .inl (exited_step taken exited)
    next =>
      rw [made] at taken
      simp only [step, Option.some.injEq] at taken
      rw [← taken]
      exact .inr ⟨information, zombie⟩

theorem alternation_heard (waitable : first.Waitable) (moment : Nat) :
    exitHeard ((alternation config first).state moment)
      ((alternation config first).move moment) = true := by
  rw [alternation_move]
  rw [alternating]
  split
  next =>
    rcases alternation_waitable config first waitable moment with exited | ⟨_, zombie⟩
    · simp [exitHeard, exited]
    · simp [exitHeard, zombie]
  next => rfl

end Alternation

/-- What the two executions start from, as a test. -/
def System.settling (system : System) : Bool :=
  system.place.inLoop && system.child.phase.dead && system.control.writers == 0 &&
    system.ready.writers == 0 && system.output.writers == 0 && system.error.writers == 0 &&
    system.table.entries.isEmpty

theorem quiet_of_settling (settling : system.settling = true) :
    system.place.inLoop = true ∧ system.Quiet ∧ system.table.entries = [] := by
  simp only [System.settling, Bool.and_eq_true, beq_iff_eq, List.isEmpty_iff] at settling
  obtain ⟨⟨⟨⟨⟨⟨inside, ended⟩, control⟩, ready⟩, output⟩, error⟩, alone⟩ := settling
  exact ⟨inside, ⟨ended, control, ready, output, error⟩, alone⟩

/-- The program of a controlled execution ends, and its streams with it. -/
def endedProgram : List Move :=
  supervised 10 ++ advanced 6 ++ supervised 25 ++ advanced 3 ++
    [.child (.exit 0), .output .close, .error .close]

/-- A program that has just ended is waited for, and the loop ends. -/
theorem loop_ends_after_program :
    ∃ execution : Execution (step (Config.plain true 1000)),
      Reaches (step (Config.plain true 1000)) unrestricted
        ((Config.plain true 1000).initial false 0) (execution.state 0) ∧
      (execution.state 0).place.inLoop = true ∧
      (execution.state 0).locals.childExited = false ∧
      ∃ moment, (execution.state moment).place.inLoop = false := by
  have played : (replay (step (Config.plain true 1000)) unrestricted endedProgram
      ((Config.plain true 1000).initial false 0)).any
      (fun system => system.settling && !system.locals.childExited &&
        system.child.phase == .zombie (.exited 0)) = true := by
    decide
  obtain ⟨system, run, test⟩ := exists_reached played
  simp only [Bool.and_eq_true, Bool.not_eq_true', beq_iff_eq] at test
  obtain ⟨⟨settling, unheard⟩, zombie⟩ := test
  obtain ⟨inside, quiet, alone⟩ := quiet_of_settling settling
  refine ⟨alternation _ system, run, inside, unheard, ?_⟩
  exact loop_ends run quiet (alternation_bounded _ system alone) (alternation_time _ system)
    (alternation_often _ system) (alternation_heard _ system (.inr ⟨_, zombie⟩))

/-- Another thread waits for the ended program, and the loop turns for ever. -/
theorem loop_never_ends_without_exit :
    ∃ execution : Execution (step (Config.plain true 1000)),
      Reaches (step (Config.plain true 1000)) unrestricted
        ((Config.plain true 1000).initial false 0) (execution.state 0) ∧
      (execution.state 0).Quiet ∧
      (∀ moment, (execution.state moment).table.entries = []) ∧
      (∀ time, ∃ moment, time ≤ (execution.state moment).clock) ∧
      (∀ moment, ∃ later, moment ≤ later ∧ advances (execution.move later) = true) ∧
      ∀ moment, (execution.state moment).place.inLoop = true := by
  have played : (replay (step (Config.plain true 1000)) unrestricted
      (endedProgram ++ [.reapElsewhere]) ((Config.plain true 1000).initial false 0)).any
      (fun system => system.settling && system.course.leg.looping && system.course.gone &&
        !system.course.exited && !system.course.reaped && system.course.released) = true := by
    decide
  obtain ⟨system, run, test⟩ := exists_reached played
  simp only [Bool.and_eq_true, Bool.not_eq_true'] at test
  obtain ⟨⟨⟨⟨⟨settling, looping⟩, gone⟩, unheard⟩, unreaped⟩, released⟩ := test
  obtain ⟨inside, quiet, alone⟩ := quiet_of_settling settling
  have sound : system.GateSound := by
    refine run.preserves System.GateSound ?_ (gateSound_initial _ false 0)
    intro state move next sound _ taken
    exact gateSound_step sound taken
  have forever := abandoned_loops (alternation (Config.plain true 1000) system) sound
    ⟨looping, gone, unheard, unreaped, released⟩ (alternation_calm _ system)
  refine ⟨alternation _ system, run, quiet, ?_, alternation_time _ system, ?_, forever⟩
  · intro moment
    rw [alternation_table]
    exact alone
  · intro moment
    obtain ⟨later, order, outside | advancing⟩ := alternation_often _ system moment
    · rw [forever] at outside
      cases outside
    · exact ⟨later, order, advancing⟩

end PkgexecLinux.Supervisor

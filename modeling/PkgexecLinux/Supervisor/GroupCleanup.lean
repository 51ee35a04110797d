import PkgexecLinux.Process.Scan
import PkgexecLinux.Supervisor.StartEvidence
import PkgexecLinux.Supervisor.Cancellation

/-!
# Truth of verified cleanup

What a scan in progress knows about the execution's group, over every step of
the system, and what follows for results that carry verified cleanup.
-/

namespace PkgexecLinux.Supervisor

open Foundation Kernel Process

/-- The processes that have forked since the last scan began. -/
def forkersSinceWait : List Event → List Nat
  | [] => []
  | .groupWait :: _ => []
  | .process move :: log => forkersAfter (forkersSinceWait log) move
  | .signalPass .. :: log | .gracePeriod _ :: log | .delivered .. :: log
  | .groupSignal .. :: log => forkersSinceWait log

/-- The scan in progress. -/
def Place.scan? : Place → Option GroupWait
  | .waiting wait => some wait
  | _ => none

/-- The part of the system that decides about verified cleanup. -/
structure Sweep where
  scan : Option GroupWait
  table : ProcessTable
  forkers : List Nat
  complete : Bool
  failed : Bool
  outcome : Option Outcome

def System.sweep (system : System) : Sweep where
  scan := system.place.scan?
  table := system.table
  forkers := forkersSinceWait system.log
  complete := system.locals.cleanupComplete
  failed := system.locals.cleanupFailed
  outcome := system.outcome?

/-- Everything a step can do to it.  `place`, `leader` and `move` are those of the
step. -/
inductive SweepStep (place : Place) (leader : LeaderState) (move : Move) (sweep : Sweep) :
    Sweep → Prop where
  | stutter : SweepStep place leader move sweep sweep
  | blame (failed : Bool) : (sweep.failed = true → failed = true) →
      SweepStep place leader move sweep { sweep with failed }
  | giveUp : SweepStep place leader move sweep { sweep with complete := true, failed := true }
  | start (clock : Nat) : place = .beginWait →
      SweepStep place leader move sweep { sweep with
        scan := some (.start clock 0), forkers := [] }
  | advance (answer : Answer) (clock : Nat) (wait later : GroupWait) :
      move = .supervisor answer → place = .waiting wait → sweep.scan = some wait →
      wait.step sweep.table leader clock answer = .running later →
      SweepStep place leader move sweep { sweep with scan := some later }
  | gone (answer : Answer) (clock : Nat) (wait : GroupWait) :
      place = .waiting wait → sweep.scan = some wait →
      wait.step sweep.table leader clock answer = .returned true →
      SweepStep place leader move sweep { sweep with scan := none, complete := true }
  | remaining : SweepStep place leader move sweep { sweep with scan := none }
  | swept (gone : Bool) : place.stage = .sweeping →
      SweepStep place leader move sweep { sweep with complete := gone, failed := !gone }
  | moved (given : ProcessMove) (table : ProcessTable) : move = .process given →
      sweep.table.move leader given = some table →
      SweepStep place leader move sweep { sweep with
        table, forkers := forkersAfter sweep.forkers given }
  | conclude (outcome : Outcome) :
      (outcome.cleanupIsVerified = true → sweep.complete = true ∧ sweep.failed = false) →
      SweepStep place leader move sweep { sweep with outcome := some outcome }

section Inversion

variable {config : Config} {answer : Answer} {system next : System}

theorem sweep_childStep {answer : ChildAnswer}
    (taken : childStep config answer system = some next) : next.sweep = system.sweep := by
  rcases childStep_frame taken with ⟨_, _, _, _, _, _, rfl⟩
  rfl

theorem sweep_finishPass {site : PassSite} {pass : SignalPass} {result : SignalResult}
    {leader : LeaderState} {move : Move} (here : system.place = .signalling site pass) :
    SweepStep system.place leader move system.sweep
      (system.finishPass site result).sweep := by
  rcases system with ⟨place, locals, child, control, ready, output, error, start, token,
    clock, table, log⟩
  cases here
  cases site
  case finalKill => exact .giveUp
  all_goals
    refine .blame (locals.cleanupFailed || !result.complete) ?_
    intro failed
    have failed : locals.cleanupFailed = true := failed
    simp [failed]

theorem sweep_waiting {wait : GroupWait} (here : system.place = .waiting wait) :
    SweepStep system.place system.leaderState (.supervisor answer) system.sweep
      (system.waiting wait answer).sweep := by
  have scan : system.sweep.scan = some wait := by simp [System.sweep, here, Place.scan?]
  unfold System.waiting
  split
  next later stepped =>
    have same : (system.goto (.waiting later)).sweep =
        { system.sweep with scan := some later } := by
      simp [System.sweep, System.goto, Place.scan?, System.outcome?, here]
    rw [same]
    exact .advance answer system.clock wait later rfl here scan stepped
  next stepped =>
    have same : ((system.set { system.locals with cleanupComplete := true }).goto
        .reapControlled).sweep = { system.sweep with scan := none, complete := true } := by
      simp [System.sweep, System.goto, System.set, Place.scan?, System.outcome?, here]
    rw [same]
    exact .gone answer system.clock wait here scan stepped
  next =>
    have same : (system.goto .checkCleanupDeadline).sweep =
        { system.sweep with scan := none } := by
      simp [System.sweep, System.goto, Place.scan?, System.outcome?, here]
    rw [same]
    exact .remaining

theorem sweep_supervisorStep
    (taken : supervisorStep config answer system = some next) :
    SweepStep system.place system.leaderState (.supervisor answer) system.sweep
      next.sweep := by
  rcases system with ⟨place, locals, child, control, ready, output, error, start, token,
    clock, table, log⟩
  cases place with
  | checkSupport =>
      cases taken
      split
      · exact .stutter
      · exact .conclude _ (by simp [Outcome.cleanupIsVerified])
  | checkBeforeAdmission | checkBeforeInterpreter | checkBeforeFork =>
      cases taken
      unfold System.checkToken
      split
      · exact .conclude _ (by simp [Outcome.cleanupIsVerified])
      · exact .stutter
  | validateShape | admitInterpreter | makePipes =>
      cases taken
      unfold System.checkVerdict
      split
      · exact .stutter
      · exact .conclude _ (by simp [Outcome.cleanupIsVerified])
      · exact .conclude _ (by simp [Outcome.cleanupIsVerified])
  | admitResources =>
      cases taken
      unfold System.checkVerdict
      repeat' split
      · exact .stutter
      · exact .conclude _ (by simp [Outcome.cleanupIsVerified])
      · exact .conclude _ (by simp [Outcome.cleanupIsVerified])
      · exact .stutter
  | fork =>
      cases taken
      unfold System.fork
      split
      · exact .conclude _ (by simp [Outcome.cleanupIsVerified])
      · unfold System.forked
        split <;> exact .stutter
  | openPidfd =>
      cases taken
      unfold System.openPidfd
      split <;> exact .stutter
  | killChild errno =>
      cases taken
      exact .stutter
  | waitChild errno =>
      simp only [supervisorStep, System.waitChild] at taken
      split at taken
      · cases taken
        exact .stutter
      · split at taken <;> cases taken
        exact .conclude _ (by simp [Outcome.cleanupIsVerified])
  | loopHead | loopEnd =>
      cases taken
      split <;> exact .stutter
  | observeChildExit =>
      cases taken
      unfold System.observeChildExit
      repeat' split
      all_goals exact .stutter
  | observeCancellation =>
      cases taken
      unfold System.observeCancellation
      split <;> exact .stutter
  | startGate =>
      cases taken
      unfold System.startGate
      split <;> exact .stutter
  | gateCancellation =>
      cases taken
      unfold System.gateCancellation System.observeCancellation
      dsimp only
      repeat' split
      all_goals exact .stutter
  | writeStart =>
      cases taken
      unfold System.writeStart
      repeat' split
      all_goals exact .stutter
  | sendCancellationSignal =>
      cases taken
      unfold System.sendCancellationSignal
      split <;> exact .stutter
  | signalling site pass =>
      cases taken
      unfold System.signalling
      split
      · exact .stutter
      · exact .stutter
      · exact sweep_finishPass rfl
  | cancellationClock | readClock =>
      cases taken
      exact .stutter
  | escalate =>
      cases taken
      unfold System.escalate
      split <;> exact .stutter
  | startCleanup =>
      cases taken
      unfold System.startCleanup
      repeat' split
      all_goals exact .stutter
  | continueCleanup =>
      cases taken
      unfold System.continueCleanup
      repeat' split
      all_goals exact .stutter
  | beginWait =>
      cases taken
      exact .start clock rfl
  | waiting wait =>
      cases taken
      exact sweep_waiting rfl
  | checkCleanupDeadline =>
      cases taken
      unfold System.checkCleanupDeadline
      repeat' split
      all_goals exact .stutter
  | reapControlled =>
      cases taken
      unfold System.reapControlled System.reap
      repeat' split
      all_goals exact .stutter
  | reapUncontrolled =>
      cases taken
      unfold System.reapUncontrolled System.reap
      repeat' split
      all_goals exact .stutter
  | cleaningGroup phase =>
      cases taken
      unfold System.cleaningGroup
      split
      · exact .stutter
      · exact .stutter
      next gone _ => exact .swept gone rfl
  | drainOutput =>
      cases taken
      unfold System.drainOutput
      repeat' split
      all_goals exact .stutter
  | drainError =>
      cases taken
      unfold System.drainError
      repeat' split
      all_goals exact .stutter
  | readControl =>
      cases taken
      unfold System.readControl
      repeat' split
      all_goals exact .stutter
  | readReady =>
      cases taken
      unfold System.readReady
      repeat' split
      all_goals exact .stutter
  | verifyParentCleanup =>
      cases taken
      exact .conclude _ cleanupIsVerified_classify
  | returned outcome => simp [supervisorStep] at taken
  | threw => simp [supervisorStep] at taken
  | terminated => simp [supervisorStep] at taken

/-- Every step of the system is a step of the cleanup's part. -/
theorem sweep_step {move : Move} (taken : step config move system = some next) :
    SweepStep system.place system.leaderState move system.sweep next.sweep := by
  cases stepped_of_step taken with
  | supervisor taken => exact sweep_supervisorStep taken
  | child taken =>
      rw [sweep_childStep taken]
      exact .stutter
  | process moved => exact .moved _ _ rfl moved
  | _ => exact .stutter

/-- Only the processes themselves change the table. -/
theorem table_step {move : Move} (taken : step config move system = some next) :
    next.table = system.table ∨
      ∃ given, move = .process given ∧
        system.table.move system.leaderState given = some next.table := by
  have stepped := sweep_step taken
  show next.sweep.table = system.sweep.table ∨ ∃ given, move = .process given ∧
    system.sweep.table.move system.leaderState given = some next.sweep.table
  generalize next.sweep = after at stepped ⊢
  cases stepped with
  | moved given table moving changed => exact .inr ⟨given, moving, changed⟩
  | _ => exact .inl rfl

/-- Every step keeps the table valid. -/
theorem valid_step {move : Move} (valid : system.table.Valid)
    (taken : step config move system = some next) : next.table.Valid := by
  rcases table_step taken with same | ⟨given, -, moved⟩
  · rw [same]
    exact valid
  · exact ProcessTable.move_valid valid moved

end Inversion

/-! ## Assumptions -/

/-- What the assumptions mean for a scan in progress. -/
structure Sweep.Trusted (sweep : Sweep) (move : Move) : Prop where
  reads : ∀ wait answer, sweep.scan = some wait → move = .supervisor answer →
    ReadsSighted sweep.table sweep.forkers wait.phase answer
  forkers : ∀ wait given, sweep.scan = some wait → move = .process given →
    KeepsForkers sweep.table sweep.forkers given

theorem waiting_of_scan {system : System} {wait : GroupWait}
    (scan : system.sweep.scan = some wait) : system.place = .waiting wait := by
  cases place : system.place <;> simp_all [System.sweep, Place.scan?]

/-- Scanning and completion come after the observed exit of the leader. -/
structure Watch.Ended (watch : Watch) : Prop where
  cleaning : watch.stage = .beginning ∨ watch.stage = .scanning ∨
    watch.stage = .checking ∨ watch.stage = .passing .cleanupKill ∨
    watch.stage = .passing .finalKill → watch.exited = true
  complete : watch.complete = true → watch.exited = true
  sweeping : watch.stage ≠ .sweeping

theorem Watch.Ended.step {config : Config} {delivers : Bool} {watch next : Watch}
    (controlled : config.controlled = true) (ended : watch.Ended)
    (stepped : WatchStep config delivers watch next) : next.Ended where
  cleaning := by
    have := ended.cleaning
    cases stepped <;> grind -ring -linarith
  complete := by
    have := ended.complete
    have := ended.cleaning
    have := ended.sweeping
    cases stepped <;> grind -ring -linarith
  sweeping := by
    have := ended.sweeping
    cases stepped <;> grind -ring -linarith

/-- The scan in progress is sighted, and a completed cleanup that has not failed
left no live member. -/
structure Sweep.Sound (sweep : Sweep) : Prop where
  scan : ∀ wait, sweep.scan = some wait →
    Sighted sweep.table sweep.forkers wait.phase
  complete : sweep.complete = true → sweep.failed = true ∨ Extinct sweep.table
  outcome : ∀ outcome, sweep.outcome = some outcome → outcome.cleanupIsVerified = true →
    sweep.complete = true ∧ Extinct sweep.table

/-- A scan returns `true` only at the end of its list. -/
theorem inspecting_nil_of_returned {table : ProcessTable} {state : LeaderState}
    {clock : Nat} {wait : GroupWait} {answer : Answer}
    (returned : wait.step table state clock answer = .returned true) :
    wait.phase = .inspecting [] := by
  rcases wait with ⟨deadline, phase⟩
  cases phase with
  | listing listing =>
      simp only [GroupWait.step] at returned
      split at returned <;> simp at returned
  | inspecting ids =>
      cases ids with
      | nil => rfl
      | cons first rest =>
          simp only [GroupWait.step] at returned
          repeat' split at returned
          all_goals simp at returned
  | found =>
      simp only [GroupWait.step] at returned
      split at returned <;> simp at returned

theorem Sweep.Sound.step {place : Place} {leader : LeaderState} {move : Move}
    {sweep next : Sweep} (valid : sweep.table.Valid) (sound : sweep.Sound)
    (stopped : sweep.scan.isSome = true ∨ sweep.complete = true → leader ≠ .running)
    (unswept : place.stage ≠ .sweeping) (trusted : sweep.Trusted move)
    (stepped : SweepStep place leader move sweep next) : next.Sound where
  scan := by
    intro wait scan
    cases stepped with
    | start clock =>
        cases scan
        exact sighted_start valid []
    | advance answer clock before after moved here scanning running =>
        cases scan
        exact (sound.scan before scanning).step valid
          (trusted.reads before answer scanning moved) running
    | moved given table moved changed =>
        exact (sound.scan wait scan).move (trusted.forkers wait given scan moved)
          (stopped (.inl (by rw [show sweep.scan = some wait from scan]; rfl))) changed
    | gone => cases scan
    | remaining => cases scan
    | stutter => exact sound.scan wait scan
    | blame => exact sound.scan wait scan
    | giveUp => exact sound.scan wait scan
    | swept gone here => exact absurd here unswept
    | conclude => exact sound.scan wait scan
  complete := by
    intro complete
    cases stepped with
    | blame failed kept =>
        rcases sound.complete complete with before | extinct
        · exact .inl (kept before)
        · exact .inr extinct
    | giveUp => exact .inl rfl
    | gone answer clock wait here scanning returned =>
        right
        have sighted := sound.scan wait scanning
        rw [inspecting_nil_of_returned returned] at sighted
        exact extinct_of_sighted sighted
    | moved given table moved changed =>
        rcases sound.complete complete with before | extinct
        · exact .inl before
        · exact .inr (extinct.move (stopped (.inr complete)) changed)
    | swept gone here => exact absurd here unswept
    | stutter => exact sound.complete complete
    | start => exact sound.complete complete
    | advance => exact sound.complete complete
    | remaining => exact sound.complete complete
    | conclude => exact sound.complete complete
  outcome := by
    intro outcome returned verified
    cases stepped with
    | moved given table moved changed =>
        rcases sound.outcome outcome returned verified with ⟨complete, extinct⟩
        exact ⟨complete, extinct.move (stopped (.inr complete)) changed⟩
    | conclude new evidence =>
        cases returned
        rcases evidence verified with ⟨complete, unfailed⟩
        rcases sound.complete complete with failed | extinct
        · simp [unfailed] at failed
        · exact ⟨complete, extinct⟩
    | swept gone here => exact absurd here unswept
    | giveUp => exact ⟨rfl, (sound.outcome outcome returned verified).2⟩
    | gone => exact ⟨rfl, (sound.outcome outcome returned verified).2⟩
    | stutter => exact sound.outcome outcome returned verified
    | blame => exact sound.outcome outcome returned verified
    | start => exact sound.outcome outcome returned verified
    | advance => exact sound.outcome outcome returned verified
    | remaining => exact sound.outcome outcome returned verified

section Runs

variable {config : Config} {token : Bool} {clock : Nat} {system : System}

/-- What holds in every controlled run. -/
structure System.Kept (system : System) : Prop where
  gate : system.GateSound
  ended : system.watch.Ended
  valid : system.table.Valid

end Runs

end PkgexecLinux.Supervisor

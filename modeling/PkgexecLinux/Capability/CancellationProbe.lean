import PkgexecLinux.Foundation.Runs
import PkgexecLinux.Process.Scan
import PkgexecLinux.Supervisor.Outcome

/-!
# The probe of cancellation

`probe_pidfd_cancellation` makes a session of two processes, terminates it as a
cancellation would, and looks whether it is gone.  Both processes of the session only
pause, so that nobody forks while the group is scanned.  Its last two waits have no
limit: the probe does not return before its child has ended.
-/

namespace PkgexecLinux.Capability

open Foundation Kernel Process Supervisor

/-- The child of the probe. -/
inductive SessionLeader where
  /-- Before `setsid`. -/
  | starting
  /-- Before the `fork` of its descendant. -/
  | leading
  /-- Before the write of the ready byte. -/
  | announcing
  | pausing
  | ended (information : ExitInformation)
  | reaped
  deriving DecidableEq, Repr

/-- Place of the parent in `probe_pidfd_cancellation`. -/
inductive TrialPlace where
  | reading
  /-- `kill(-child, SIGKILL)` and the single `waitpid` after it. -/
  | killingGroup
  | waitingOnce
  | openingPidfd
  | signalling (pass : SignalPass)
  /-- `pidfd_exited`. -/
  | polling (signal : SignalResult)
  | scanning (signal : SignalResult) (exited : Bool) (wait : GroupWait)
  | observing (signal : SignalResult) (exited gone : Bool)
  | reaping (success : Bool)
  | returned (success : Bool)
  deriving DecidableEq, Repr

namespace TrialPlace

/-- The answer can still be true. -/
def promising : TrialPlace → Bool
  | .openingPidfd | .signalling _ | .polling _ | .scanning .. | .observing .. | .reaping _
  | .returned true => true
  | .reading | .killingGroup | .waitingOnce | .returned false => false

/-- The scan has begun. -/
def judged : TrialPlace → Bool
  | .scanning .. | .observing .. | .reaping true | .returned true => true
  | .reading | .killingGroup | .waitingOnce | .openingPidfd | .signalling _ | .polling _
  | .reaping false | .returned false => false

/-- Before the scan, or after the answer has become false. -/
def underway : TrialPlace → Bool
  | .signalling _ | .polling _ | .reaping false => true
  | _ => false

theorem judged_of_underway {place : TrialPlace} (early : place.underway = true) :
    place.judged = false := by
  simp only [underway] at early
  split at early
  · rfl
  · rfl
  · rfl
  · cases early

theorem judged_of_hopeless {place : TrialPlace} (hopeless : place.promising = false) :
    place.judged = false := by
  cases place with
  | reading | killingGroup | waitingOnce => rfl
  | returned success =>
      cases success with
      | false => rfl
      | true => cases hopeless
  | openingPidfd | signalling _ | polling _ | scanning _ _ _ | observing _ _ _ | reaping _ =>
      cases hopeless

end TrialPlace

/-- The parent, its child and the other processes; `ready` is what is in the pipe. -/
structure Trial where
  place : TrialPlace
  leader : SessionLeader
  ready : List UInt8
  table : ProcessTable
  clock : Nat
  deriving DecidableEq, Repr

inductive TrialMove where
  | parent (answer : Answer)
  | leader (answer : Answer)
  /-- The `fork` of the child succeeds. -/
  | descend (pid : Nat)
  | kill (signal : UInt32)
  | reapElsewhere
  | tick (duration : Nat)
  | process (move : ProcessMove)
  deriving DecidableEq, Repr

namespace SessionLeader

/-- No longer running. -/
def stopped : SessionLeader → Bool
  | .ended _ | .reaped => true
  | .starting | .leading | .announcing | .pausing => false

/-- Will not fork any more. -/
def settled : SessionLeader → Bool
  | .pausing | .ended _ | .reaped => true
  | .starting | .leading | .announcing => false

/-- The leader, as the rest of the kernel sees it between its own steps. -/
def state : SessionLeader → LeaderState
  | .reaped => .gone
  | _ => .retained

end SessionLeader

/-- The group has died out, as a test. -/
def extinct (table : ProcessTable) : Bool :=
  table.entries.all fun process => !(process.member && process.live)

/-- Another process of the group makes this move, which pauses only. -/
def memberForks (table : ProcessTable) : ProcessMove → Bool
  | .fork parent _ => (table.find parent).any (·.member)
  | _ => false

/-- `SIGTERM`. -/
def sigterm : UInt32 := 15

namespace Trial

/-- After the `fork` of the child and the closing of the parent's write end. -/
def initial (table : ProcessTable) (clock : Nat) : Trial := ⟨.reading, .starting, [], table, clock⟩

def goto (trial : Trial) (place : TrialPlace) : Trial := { trial with place }

/-- The reading loop; the write end is open in both processes of the session. -/
def read (trial : Trial) : Answer → Option Trial
  | .interrupted => some trial
  | .refused _ => some (trial.goto .killingGroup)
  | _ =>
      match trial.ready with
      | _ :: rest => some { trial with place := .openingPidfd, ready := rest }
      | [] =>
          if trial.leader.stopped && extinct trial.table then some (trial.goto .killingGroup)
          else none

def openPidfd (trial : Trial) : Answer → Trial
  | .refused _ => trial.goto .killingGroup
  | _ => trial.goto (.signalling (.start .sigterm))

def signalling (trial : Trial) (pass : SignalPass) (answer : Answer) : Trial :=
  match pass.step trial.table trial.leader.state answer with
  | .running pass _ => trial.goto (.signalling pass)
  | .returned result => trial.goto (.polling result)

/-- `pidfd_exited` with a limit of one second, and the beginning of
`wait_process_group_members_gone` with another. -/
def polling (trial : Trial) (signal : SignalResult) : Answer → Trial
  | .interrupted => trial
  | .refused _ => trial.goto (.scanning signal false (.start trial.clock 1000000000))
  | _ => trial.goto (.scanning signal trial.leader.stopped (.start trial.clock 1000000000))

def scanning (trial : Trial) (signal : SignalResult) (exited : Bool) (wait : GroupWait)
    (answer : Answer) : Trial :=
  match wait.step trial.table trial.leader.state trial.clock answer with
  | .running wait => trial.goto (.scanning signal exited wait)
  | .returned gone => trial.goto (.observing signal exited gone)

/-- The conjunction that the probe returns. -/
def success (signal : SignalResult) (exited gone : Bool)
    (observed : Option ExitInformation) : Bool :=
  signal.complete && signal.leaderSignaled && exited && gone &&
    observed == some (.signaled sigterm)

/-- `waitid`, which blocks until the child has ended and is not repeated. -/
def observing (trial : Trial) (signal : SignalResult) (exited gone : Bool) :
    Answer → Option Trial
  | .interrupted | .refused _ => some (trial.goto (.reaping false))
  | _ =>
      match trial.leader with
      | .ended information =>
          some (trial.goto (.reaping (success signal exited gone (some information))))
      | .reaped => some (trial.goto (.reaping false))
      | _ => none

/-- `waitpid`, which blocks likewise. -/
def reap (trial : Trial) (success : Bool) : Option Trial :=
  if trial.leader.stopped then
    some { trial with place := .returned success, leader := .reaped }
  else
    none

/-- One step of the parent. -/
def parentStep (answer : Answer) (trial : Trial) : Option Trial :=
  match trial.place with
  | .reading => trial.read answer
  | .killingGroup => some (trial.goto .waitingOnce)
  | .waitingOnce =>
      if answer = .interrupted then some (trial.goto (.returned false)) else trial.reap false
  | .openingPidfd => some (trial.openPidfd answer)
  | .signalling pass => some (trial.signalling pass answer)
  | .polling signal => some (trial.polling signal answer)
  | .scanning signal exited wait => some (trial.scanning signal exited wait answer)
  | .observing signal exited gone => trial.observing signal exited gone answer
  | .reaping success => if answer = .interrupted then some trial else trial.reap success
  | .returned _ => none

/-- `SIGPIPE`. -/
def sigpipe : UInt32 := 13

/-- One step of the child; its `fork` succeeds by a move of its own. -/
def leaderStep (answer : Answer) (trial : Trial) : Option Trial :=
  match trial.leader, answer with
  | .starting, .refused _ => some { trial with leader := .ended (.exited 2) }
  | .starting, _ => some { trial with leader := .leading }
  | .leading, .refused _ => some { trial with leader := .ended (.exited 3) }
  | .announcing, .refused _ => some { trial with leader := .pausing }
  | .announcing, .interrupted => some { trial with leader := .pausing }
  | .announcing, _ =>
      if trial.place = .reading then
        some { trial with leader := .pausing, ready := trial.ready ++ [1] }
      else
        some { trial with leader := .ended (.signaled sigpipe) }
  | _, _ => none

/-- One step of the probe, its child and everything around them. -/
def step : TrialMove → Trial → Option Trial
  | .parent answer, trial => trial.parentStep answer
  | .leader answer, trial => trial.leaderStep answer
  | .descend pid, trial =>
      if trial.leader = .leading then
        (trial.table.move .running (.fork trial.table.leader pid)).map fun table =>
          { trial with leader := .announcing, table }
      else
        none
  | .kill signal, trial =>
      if trial.leader.stopped then none else some { trial with leader := .ended (.signaled signal) }
  | .reapElsewhere, trial =>
      match trial.leader with
      | .ended _ => some { trial with leader := .reaped }
      | _ => none
  | .tick duration, trial => some { trial with clock := trial.clock + duration }
  | .process move, trial =>
      if memberForks trial.table move then none
      else (trial.table.move trial.leader.state move).map fun table => { trial with table }

/-! ## Everything that can happen -/

/-- Everything the parent can do. -/
inductive Taken (trial : Trial) (answer : Answer) : Trial → Prop where
  | stutter : Taken trial answer trial
  | heard (byte : UInt8) (rest : List UInt8) : trial.place = .reading →
      trial.ready = byte :: rest →
      Taken trial answer { trial with place := .openingPidfd, ready := rest }
  | fail (place : TrialPlace) : place = .killingGroup ∨ place = .waitingOnce →
      Taken trial answer (trial.goto place)
  | giveUp : trial.place = .waitingOnce → answer = .interrupted →
      Taken trial answer (trial.goto (.returned false))
  | onward (place : TrialPlace) : trial.place.promising = true → place.underway = true →
      Taken trial answer (trial.goto place)
  | scan (signal : SignalResult) (exited : Bool) (limit : Nat) :
      trial.place.promising = true →
      Taken trial answer (trial.goto (.scanning signal exited (.start trial.clock limit)))
  | scanned (signal : SignalResult) (exited : Bool) (wait later : GroupWait) :
      trial.place = .scanning signal exited wait →
      wait.step trial.table trial.leader.state trial.clock answer = .running later →
      Taken trial answer (trial.goto (.scanning signal exited later))
  | judge (signal : SignalResult) (exited gone : Bool) (wait : GroupWait) :
      trial.place = .scanning signal exited wait →
      wait.step trial.table trial.leader.state trial.clock answer = .returned gone →
      Taken trial answer (trial.goto (.observing signal exited gone))
  | observe (signal : SignalResult) (exited gone : Bool) (information : ExitInformation) :
      trial.place = .observing signal exited gone → trial.leader = .ended information →
      Taken trial answer
        (trial.goto (.reaping (success signal exited gone (some information))))
  | reap (success : Bool) : trial.place = .reaping success ∨ success = false →
      trial.leader.stopped = true →
      Taken trial answer { trial with place := .returned success, leader := .reaped }

theorem taken_of_parentStep {trial next : Trial} {answer : Answer}
    (stepped : trial.parentStep answer = some next) : Taken trial answer next := by
  cases here : trial.place with
  | reading =>
      simp only [parentStep, here] at stepped
      have reads : ∀ other, (match trial.ready with
          | _ :: rest => some { trial with place := .openingPidfd, ready := rest }
          | [] =>
              if trial.leader.stopped && extinct trial.table then some (trial.goto .killingGroup)
              else none) = some other → Taken trial answer other := by
        intro other given
        split at given
        next byte rest filled =>
          cases given
          exact .heard byte rest here filled
        next =>
          split at given <;> cases given
          exact .fail .killingGroup (.inl rfl)
      cases answer with
      | interrupted =>
          cases stepped
          exact .stutter
      | refused errno =>
          cases stepped
          exact .fail .killingGroup (.inl rfl)
      | done | count _ | exhausted => exact reads next stepped
  | killingGroup =>
      simp only [parentStep, here] at stepped
      cases stepped
      exact .fail .waitingOnce (.inr rfl)
  | waitingOnce =>
      simp only [parentStep, here, Trial.reap] at stepped
      split at stepped
      next interrupted =>
        cases stepped
        exact .giveUp here interrupted
      next =>
        split at stepped <;> cases stepped
        next stopped => exact .reap false (.inr rfl) stopped
  | openingPidfd =>
      simp only [parentStep, here, Option.some.injEq] at stepped
      subst stepped
      simp only [Trial.openPidfd]
      split
      · exact .fail .killingGroup (.inl rfl)
      · exact .onward _ (by rw [here]; rfl) rfl
  | signalling pass =>
      simp only [parentStep, here, Option.some.injEq] at stepped
      subst stepped
      simp only [Trial.signalling]
      split
      · exact .onward _ (by rw [here]; rfl) rfl
      · exact .onward _ (by rw [here]; rfl) rfl
  | polling signal =>
      simp only [parentStep, here, Option.some.injEq] at stepped
      subst stepped
      simp only [Trial.polling]
      split
      · exact .stutter
      · exact .scan signal _ _ (by rw [here]; rfl)
      · exact .scan signal _ _ (by rw [here]; rfl)
  | scanning signal exited wait =>
      simp only [parentStep, here, Option.some.injEq] at stepped
      subst stepped
      simp only [Trial.scanning]
      split
      next later running => exact .scanned signal exited wait later here running
      next gone ended => exact .judge signal exited gone wait here ended
  | observing signal exited gone =>
      simp only [parentStep, here] at stepped
      have unobserved : Taken trial answer (trial.goto (.reaping false)) :=
        .onward _ (by rw [here]; rfl) rfl
      have waits : ∀ other, (match trial.leader with
          | .ended information =>
              some (trial.goto (.reaping (success signal exited gone (some information))))
          | .reaped => some (trial.goto (.reaping false))
          | _ => none) = some other → Taken trial answer other := by
        intro other given
        split at given
        next information ended =>
          cases given
          exact .observe signal exited gone information here ended
        next =>
          cases given
          exact unobserved
        next => cases given
      cases answer with
      | interrupted | refused _ =>
          cases stepped
          exact unobserved
      | done | count _ | exhausted => exact waits next stepped
  | reaping success =>
      simp only [parentStep, here, Trial.reap] at stepped
      split at stepped
      · cases stepped
        exact .stutter
      · split at stepped <;> cases stepped
        next stopped => exact .reap success (.inl here) stopped
  | returned success => simp [parentStep, here] at stepped

/-! ## Invariants -/

/-- The table is valid, and whoever has heard of the session finds it made. -/
structure Sound (trial : Trial) : Prop where
  valid : trial.table.Valid
  announced : trial.ready ≠ [] → trial.leader.settled = true
  settled : trial.place.promising = true → trial.leader.settled = true

/-- What the places of the parent say about the group. -/
structure Truthful (trial : Trial) : Prop where
  scanning : ∀ signal exited wait, trial.place = .scanning signal exited wait →
    Sighted trial.table [] wait.phase
  observing : ∀ signal exited, trial.place = .observing signal exited true →
    Extinct trial.table
  judged : trial.place = .reaping true ∨ trial.place = .returned true → Extinct trial.table

theorem leader_settles {trial next : Trial} {answer : Answer}
    (stepped : trial.leaderStep answer = some next) :
    (trial.leader.settled = false ∧ next.place = trial.place ∧ next.table = trial.table) ∧
      (next.ready ≠ [] → trial.ready ≠ [] ∨ next.leader.settled = true) := by
  simp only [leaderStep] at stepped
  split at stepped
  all_goals try (split at stepped)
  all_goals cases stepped
  all_goals simp_all [SessionLeader.settled]

theorem Sound.step {trial next : Trial} {move : TrialMove} (sound : trial.Sound)
    (taken : Trial.step move trial = some next) : next.Sound := by
  have settled := sound.settled
  cases move with
  | parent answer =>
      cases taken_of_parentStep taken with
      | stutter => exact sound
      | heard byte rest _ filled =>
          have heard := sound.announced (by rw [filled]; exact List.cons_ne_nil _ _)
          exact ⟨sound.valid, fun _ => heard, fun _ => heard⟩
      | fail place failing =>
          refine ⟨sound.valid, sound.announced, fun promising => ?_⟩
          rcases failing with rfl | rfl <;> cases promising
      | giveUp => exact ⟨sound.valid, sound.announced, nofun⟩
      | onward place promising _ => exact ⟨sound.valid, sound.announced, fun _ => settled promising⟩
      | scan _ _ _ promising => exact ⟨sound.valid, sound.announced, fun _ => settled promising⟩
      | scanned _ _ _ _ here _ | judge _ _ _ _ here _ | observe _ _ _ _ here _ =>
          exact ⟨sound.valid, sound.announced, fun _ => settled (by rw [here]; rfl)⟩
      | reap => exact ⟨sound.valid, fun _ => rfl, fun _ => rfl⟩
  | leader answer =>
      rcases leader_settles taken with ⟨⟨unsettled, place, table⟩, ready⟩
      refine ⟨table ▸ sound.valid, fun something => ?_, fun promising => ?_⟩
      · rcases ready something with before | after
        · rw [sound.announced before] at unsettled
          cases unsettled
        · exact after
      · rw [place] at promising
        rw [settled promising] at unsettled
        cases unsettled
  | descend pid =>
      simp only [Trial.step] at taken
      split at taken
      next leading =>
        rcases Option.map_eq_some_iff.mp taken with ⟨table, moved, rfl⟩
        have unsettled : trial.leader.settled ≠ true := by
          rw [leading]
          nofun
        exact ⟨ProcessTable.move_valid sound.valid moved,
          fun something => absurd (sound.announced something) unsettled,
          fun promising => absurd (settled promising) unsettled⟩
      next => cases taken
  | kill signal =>
      simp only [Trial.step] at taken
      split at taken <;> cases taken
      exact ⟨sound.valid, fun _ => rfl, fun _ => rfl⟩
  | reapElsewhere =>
      simp only [Trial.step] at taken
      split at taken <;> cases taken
      exact ⟨sound.valid, fun _ => rfl, fun _ => rfl⟩
  | tick duration =>
      cases taken
      exact ⟨sound.valid, sound.announced, settled⟩
  | process given =>
      simp only [Trial.step] at taken
      split at taken
      next => cases taken
      next =>
        rcases Option.map_eq_some_iff.mp taken with ⟨table, moved, rfl⟩
        exact ⟨ProcessTable.move_valid sound.valid moved, sound.announced, settled⟩

/-- A scan that nobody in the group disturbs by a fork stays sighted. -/
theorem sighted_quiet {table after : ProcessTable} {state : LeaderState} {given : ProcessMove}
    {phase : WaitPhase} (valid : table.Valid) (sighted : Sighted table [] phase)
    (quiet : memberForks table given = false) (stopped : state ≠ .running)
    (moved : table.move state given = some after) : Sighted after [] phase := by
  have kept : KeepsForkers table [] given := nofun
  rcases sighted.move kept stopped moved with all | ⟨process, present, member, forker, covered⟩
  · exact .inl all
  · -- The only forker there can be is not a member.
    cases given with
    | exit | regroup | reap => cases forker
    | fork parent child =>
        have pid : process.pid = parent := List.mem_singleton.mp forker
        have found := ProcessTable.find_eq_of_mem (ProcessTable.move_valid valid moved) present
        cases ProcessTable.move_spec moved with
        | leaderFork running => exact absurd running stopped
        | @fork _ _ forking forked same _ _ =>
            have again := ProcessTable.find_eq_of_mem (ProcessTable.move_valid valid moved)
              (List.mem_append_left _ forked)
            rw [same, ← pid, found] at again
            cases again
            have known := ProcessTable.find_eq_of_mem valid forked
            rw [same] at known
            simp [memberForks, known, member] at quiet

/-- A scan says that nothing is left only at its end. -/
theorem phase_of_gone {table : ProcessTable} {state : LeaderState} {clock : Nat}
    {wait : GroupWait} {answer : Answer}
    (gone : wait.step table state clock answer = .returned true) :
    wait.phase = .inspecting [] := by
  rcases wait with ⟨deadline, phase⟩
  cases phase with
  | listing listing =>
      simp only [GroupWait.step] at gone
      split at gone <;> cases gone
  | inspecting ids =>
      cases ids with
      | nil => rfl
      | cons process rest =>
          simp only [GroupWait.step] at gone
          repeat' split at gone
          all_goals cases gone
  | found =>
      simp only [GroupWait.step] at gone
      split at gone <;> cases gone

/-- Reads of the `stat` file of a live process succeed. -/
def readable (trial : Trial) : TrialMove → Bool
  | .parent answer =>
      match trial.place with
      | .scanning _ _ ⟨_, .inspecting (process :: _)⟩ =>
          !(failsRead answer && (trial.table.find process).any (·.live))
      | _ => true
  | _ => true

theorem readsSighted_of_readable {trial : Trial} {answer : Answer} {signal : SignalResult}
    {exited : Bool} {wait : GroupWait} (valid : trial.table.Valid)
    (here : trial.place = .scanning signal exited wait)
    (admitted : readable trial (.parent answer) = true) :
    ReadsSighted trial.table [] wait.phase answer := by
  intro process rest inspects present _ kind
  rcases wait with ⟨deadline, phase⟩
  cases inspects
  have found := ProcessTable.find_eq_of_mem valid present
  rcases kind with alive | forker
  · simpa [readable, here, found, alive] using admitted
  · cases forker

theorem Truthful.step {trial next : Trial} {move : TrialMove} (sound : trial.Sound)
    (truthful : trial.Truthful) (admitted : readable trial move = true)
    (taken : Trial.step move trial = some next) : next.Truthful := by
  -- A move that changes neither the place nor the table.
  have still : ∀ later : Trial, later.place = trial.place → later.table = trial.table →
      later.Truthful := by
    intro later place table
    exact ⟨by rw [place, table]; exact truthful.scanning,
      by rw [place, table]; exact truthful.observing, by rw [place, table]; exact truthful.judged⟩
  -- A place from which the answer cannot be true, or the scan has not begun.
  have silent : ∀ later : Trial, later.place.judged = false → later.Truthful := by
    intro later early
    refine ⟨fun _ _ _ here => ?_, fun _ _ here => ?_, fun here => ?_⟩
    · rw [here] at early
      cases early
    · rw [here] at early
      cases early
    · rcases here with here | here <;> rw [here] at early <;> cases early
  cases move with
  | parent answer =>
      cases taken_of_parentStep taken with
      | stutter => exact truthful
      | heard => exact silent _ rfl
      | fail place failing =>
          apply silent
          rcases failing with rfl | rfl <;> rfl
      | giveUp => exact silent _ rfl
      | onward place _ early => exact silent _ (TrialPlace.judged_of_underway early)
      | scan signal exited limit =>
          refine ⟨?_, nofun, nofun⟩
          rintro _ _ _ ⟨⟩
          exact sighted_start sound.valid []
      | scanned signal exited wait later here stepped =>
          have reads := readsSighted_of_readable sound.valid here admitted
          refine ⟨?_, nofun, nofun⟩
          rintro _ _ _ ⟨⟩
          exact (truthful.scanning _ _ _ here).step sound.valid reads stepped
      | judge signal exited gone wait here stepped =>
          refine ⟨nofun, ?_, nofun⟩
          rintro _ _ ⟨⟩
          have sighted := truthful.scanning _ _ _ here
          rw [phase_of_gone stepped] at sighted
          exact extinct_of_sighted sighted
      | observe signal exited gone information here _ =>
          refine ⟨nofun, nofun, ?_⟩
          rintro (succeeded | succeeded)
          · injection succeeded with succeeded
            simp only [success, Bool.and_eq_true] at succeeded
            rw [succeeded.1.2] at here
            exact truthful.observing _ _ here
          · cases succeeded
      | reap success before =>
          refine ⟨nofun, nofun, ?_⟩
          rintro (succeeded | succeeded)
          · cases succeeded
          · cases succeeded
            rcases before with here | hopeless
            · exact truthful.judged (.inl here)
            · cases hopeless
  | leader answer =>
      rcases leader_settles taken with ⟨⟨_, place, table⟩, _⟩
      exact still next place table
  | descend pid =>
      simp only [Trial.step] at taken
      split at taken
      next leading =>
        rcases Option.map_eq_some_iff.mp taken with ⟨table, moved, rfl⟩
        apply silent
        apply TrialPlace.judged_of_hopeless
        apply eq_false_of_ne_true
        intro promising
        have settled := sound.settled promising
        rw [leading] at settled
        cases settled
      next => cases taken
  | kill signal =>
      simp only [Trial.step] at taken
      split at taken <;> cases taken
      exact still _ rfl rfl
  | reapElsewhere =>
      simp only [Trial.step] at taken
      split at taken <;> cases taken
      exact still _ rfl rfl
  | tick duration =>
      cases taken
      exact still _ rfl rfl
  | process given =>
      simp only [Trial.step] at taken
      split at taken
      next => cases taken
      next quiet =>
        have quiet := eq_false_of_ne_true quiet
        have stopped : trial.leader.state ≠ .running := by
          cases trial.leader <;> nofun
        rcases Option.map_eq_some_iff.mp taken with ⟨table, moved, rfl⟩
        exact ⟨fun signal exited wait here => sighted_quiet sound.valid
            (truthful.scanning signal exited wait here) quiet stopped moved,
          fun signal exited here => (truthful.observing signal exited here).move stopped moved,
          fun here => (truthful.judged here).move stopped moved⟩

/-- Only the parent moves on in its source. -/
theorem place_step {trial next : Trial} {move : TrialMove}
    (outside : ∀ answer, move ≠ .parent answer) (taken : Trial.step move trial = some next) :
    next.place = trial.place := by
  cases move with
  | parent answer => exact absurd rfl (outside answer)
  | leader answer => exact (leader_settles taken).1.2.1
  | descend pid =>
      simp only [Trial.step] at taken
      split at taken
      next =>
        rcases Option.map_eq_some_iff.mp taken with ⟨table, _, rfl⟩
        rfl
      next => cases taken
  | kill _ | reapElsewhere =>
      simp only [Trial.step] at taken
      split at taken <;> cases taken
      rfl
  | tick duration =>
      cases taken
      rfl
  | process given =>
      simp only [Trial.step] at taken
      split at taken
      next => cases taken
      next =>
        rcases Option.map_eq_some_iff.mp taken with ⟨table, _, rfl⟩
        rfl

/-- The answer is true, or about to be. -/
def succeeds (trial : Trial) : Bool :=
  trial.place == .reaping true || trial.place == .returned true

/-- Success rests on the end of the child by the signal. -/
theorem succeeds_step {trial next : Trial} {move : TrialMove}
    (taken : Trial.step move trial = some next) (succeeded : next.succeeds = true) :
    trial.succeeds = true ∨ trial.leader = .ended (.signaled sigterm) := by
  by_cases inside : ∃ answer, move = .parent answer
  · rcases inside with ⟨answer, rfl⟩
    cases taken_of_parentStep taken with
    | stutter => exact .inl succeeded
    | heard => simp [succeeds] at succeeded
    | fail place failing =>
        rcases failing with rfl | rfl <;> simp [succeeds, goto] at succeeded
    | giveUp => simp [succeeds, goto] at succeeded
    | onward place _ early =>
        have unjudged := TrialPlace.judged_of_underway early
        simp only [succeeds, goto, Bool.or_eq_true, beq_iff_eq] at succeeded
        rcases succeeded with rfl | rfl <;> cases unjudged
    | scan | scanned | judge => simp [succeeds, goto] at succeeded
    | observe signal exited gone information here ended =>
        right
        simp only [succeeds, goto, success, Bool.or_eq_true, beq_iff_eq,
          TrialPlace.reaping.injEq, Bool.and_eq_true, Option.some.injEq, reduceCtorEq,
          or_false] at succeeded
        rw [ended, succeeded.2]
    | reap success before =>
        left
        simp only [succeeds, Bool.or_eq_true, beq_iff_eq, TrialPlace.returned.injEq,
          reduceCtorEq, false_or] at succeeded
        rcases before with here | hopeless
        · simp [succeeds, here, succeeded]
        · rw [succeeded] at hopeless
          cases hopeless
  · left
    rw [succeeds, ← place_step (fun answer same => inside ⟨answer, same⟩) taken]
    exact succeeded

/-- A child that has been waited for stays so. -/
theorem reaped_stays {trial next : Trial} {move : TrialMove} (gone : trial.leader = .reaped)
    (taken : Trial.step move trial = some next) : next.leader = .reaped := by
  cases move with
  | parent answer =>
      cases taken_of_parentStep taken with
      | reap => rfl
      | _ => exact gone
  | leader answer => simp [Trial.step, leaderStep, gone] at taken
  | descend pid => simp [Trial.step, gone] at taken
  | kill signal => simp [Trial.step, gone, SessionLeader.stopped] at taken
  | reapElsewhere => simp [Trial.step, gone] at taken
  | tick duration =>
      cases taken
      exact gone
  | process given =>
      simp only [Trial.step] at taken
      split at taken
      next => cases taken
      next =>
        rcases Option.map_eq_some_iff.mp taken with ⟨table, _, rfl⟩
        exact gone

/-- The one `waitpid` that is not repeated is not interrupted. -/
def patient (trial : Trial) (move : TrialMove) : Bool :=
  !(trial.place == .waitingOnce && move == .parent .interrupted)

/-- The probe returns when it has waited for its child. -/
theorem reaped_step {trial next : Trial} {move : TrialMove} {success : Bool}
    (kept : trial.place = .returned success → trial.leader = .reaped)
    (patience : success = true ∨ trial.patient move = true)
    (taken : Trial.step move trial = some next) (ended : next.place = .returned success) :
    next.leader = .reaped := by
  by_cases inside : ∃ answer, move = .parent answer
  · rcases inside with ⟨answer, rfl⟩
    cases taken_of_parentStep taken with
    | stutter => exact kept ended
    | heard | scan | scanned | judge | observe => cases ended
    | fail place failing =>
        rcases failing with rfl | rfl <;> cases ended
    | giveUp here interrupted =>
        cases ended
        rcases patience with never | patience
        · cases never
        · simp [patient, here, interrupted] at patience
    | onward place _ early =>
        cases ended
        cases early
    | reap => rfl
  · have place := place_step (fun answer same => inside ⟨answer, same⟩) taken
    exact reaped_stays (kept (place.symm.trans ended)) taken

section Runs

variable {table : ProcessTable} {clock : Nat} {trial : Trial}

theorem sound_initial (valid : table.Valid) : (initial table clock).Sound :=
  ⟨valid, fun something => absurd rfl something, nofun⟩

theorem sound_run {allowed : Trial → TrialMove → Bool} (valid : table.Valid)
    (run : Reaches Trial.step allowed (initial table clock) trial) : trial.Sound :=
  run.preserves Trial.Sound (fun _ _ _ sound _ taken => sound.step taken) (sound_initial valid)

theorem truthful_run (valid : table.Valid)
    (run : Reaches Trial.step readable (initial table clock) trial) : trial.Truthful := by
  refine run.preserves_with Trial.Sound Trial.Truthful
    (fun _ _ _ sound _ taken => sound.step taken) ?_ (sound_initial valid) ?_
  · intro state move next sound truthful admitted taken
    exact truthful.step sound admitted taken
  · exact ⟨nofun, nofun, nofun⟩

/-- A group that has been found gone stays gone, whatever happens next. -/
theorem extinct_forever {later : Trial} (sound : trial.Sound) (truthful : trial.Truthful)
    (answered : trial.place = .returned true)
    (onward : Reaches Trial.step unrestricted trial later) : Extinct later.table := by
  have kept : later.place = .returned true ∧ later.Sound ∧ later.Truthful := by
    refine onward.preserves (fun state => state.place = .returned true ∧ state.Sound ∧
      state.Truthful) ?_ ⟨answered, sound, truthful⟩
    rintro state move next ⟨here, sound, truthful⟩ _ taken
    have outside : ∀ answer, move ≠ .parent answer := by
      rintro answer rfl
      simp [Trial.step, parentStep, here] at taken
    have admitted : readable state move = true := by
      cases move with
      | parent answer => exact absurd rfl (outside answer)
      | _ => rfl
    exact ⟨(place_step outside taken).trans here, sound.step taken,
      truthful.step sound admitted taken⟩
  exact kept.2.2.judged (.inr kept.1)

/-- What a session has gone through that the probe finds cancelled: its leader was ended by
the signal and has been waited for, and its group has died out for good. -/
structure Cancelled (table : ProcessTable) (clock : Nat) (trial : Trial) : Prop where
  reaped : trial.leader = .reaped
  signaled : Passes step readable (fun state => state.leader == .ended (.signaled sigterm))
    (initial table clock) trial
  extinct : ∀ later, Reaches step unrestricted trial later → Extinct later.table

theorem cancelled_of_true (valid : table.Valid)
    (run : Reaches Trial.step readable (initial table clock) trial)
    (answered : trial.place = .returned true) : Cancelled table clock trial where
  reaped := run.preserves (fun state => state.place = .returned true → state.leader = .reaped)
    (fun _ _ _ kept _ taken => reaped_step kept (.inl rfl) taken) nofun answered
  signaled := by
    refine run.passes (fun _ => True) succeeds _ (fun _ _ _ _ _ _ => trivial) ?_ trivial rfl
      (by simp [succeeds, answered])
    intro state move next _ taken succeeded
    rcases succeeds_step taken succeeded with before | ended
    · exact .inl before
    · exact .inr (.inl (beq_iff_eq.mpr ended))
  extinct := fun _ onward =>
    extinct_forever (sound_run valid run) (truthful_run valid run) answered onward

end Runs

end Trial

/-- The probe of cancellation over every interleaving of the parent, the session and the other
processes.  As long as the `stat` files of live processes can be read, true is answered only
when the child has ended by the signal and been waited for, and no live process of the group
is left, then or later.  Whatever it answers, the probe returns only when it has waited for
the end of its child, the one interrupted `waitpid` aside: a child that the signal does not
end keeps it waiting. -/
theorem probePidfdCancellation_truthful {table : ProcessTable} (valid : table.Valid)
    (clock : Nat) :
    (∀ trial, Reaches Trial.step Trial.readable (Trial.initial table clock) trial →
      trial.place = .returned true →
      trial.leader = .reaped ∧
        Passes Trial.step Trial.readable (fun state => state.leader == .ended (.signaled sigterm))
          (Trial.initial table clock) trial ∧
        ∀ later, Reaches Trial.step unrestricted trial later → Extinct later.table) ∧
    ∀ trial success, Reaches Trial.step Trial.patient (Trial.initial table clock) trial →
      trial.place = .returned success → trial.leader = .reaped := by
  constructor
  · intro trial run answered
    have cancelled := Trial.cancelled_of_true valid run answered
    exact ⟨cancelled.reaped, cancelled.signaled, cancelled.extinct⟩
  · intro trial success run answered
    exact run.preserves (fun state => state.place = .returned success → state.leader = .reaped)
      (fun _ _ _ kept admitted taken => Trial.reaped_step kept (.inr admitted) taken) nofun
      answered

/-- The session is made, terminated and found gone. -/
def terminatedSession : List TrialMove :=
  [.leader .done, .descend 101, .leader .done] ++ List.replicate 12 (.parent .done) ++
    [.process (.exit 101), .kill sigterm, .process (.reap 101)] ++
    List.replicate 7 (.parent .done)

theorem probePidfdCancellation_truthful_terminated :
    ∃ trial : Trial, trial.place = .returned true ∧ trial.leader = .reaped ∧
      Extinct trial.table := by
  have valid : (ProcessTable.mk 100 [] 0).Valid := ProcessTable.valid_nil 100 0
  have played : ((replay Trial.step Trial.readable terminatedSession
      (Trial.initial ⟨100, [], 0⟩ 0)).any fun trial => trial.place == .returned true) = true := by
    decide
  rcases exists_reached played with ⟨trial, run, test⟩
  have answered := eq_of_beq test
  rcases (probePidfdCancellation_truthful valid 0).1 trial run answered with ⟨gone, _, forever⟩
  exact ⟨trial, answered, gone, forever trial (.refl trial)⟩

end PkgexecLinux.Capability

import PkgexecLinux.Supervisor.Course
import PkgexecLinux.Supervisor.GroupCleanup

/-!
# Custody of the child

Once the child is forked, the supervisor owes it two things before it leaves
`execute_backend`: to wait for it, and to clean up its process group.  Both are
done by code of the loop, and a string that cannot grow throws past that code.
-/

namespace PkgexecLinux.Supervisor

open Foundation Kernel Process

/-- A string of `drain_fd` fails to grow only after the child has been reaped. -/
def growsUntilReaped (system : System) (move : Move) : Bool :=
  !system.drainThrows move || system.locals.childReaped

namespace Course

/-- The supervisor is cleaning up the group: it is in `wait_process_group_members_gone`
or in `cleanup_group`. -/
@[grind] def cleans (course : Course) : Bool :=
  match course.leg with
  | .scanning | .cleaning _ => true
  | _ => false

/-- The supervisor sends `SIGKILL` to a child for which it could not open a pidfd. -/
@[grind] def kills (course : Course) : Bool := course.leg == .killing

/-- What each way out of `execute_backend` has behind it. -/
structure Kept (course : Course) : Prop where
  admission : course.leg = .admission → course.born = false
  early : course.leg = .admission ∨ course.leg = .opening ∨ course.leg = .killing ∨
    course.leg = .abandoning → course.reaped = false ∧ course.released = false
  reaped : course.reaped = true → course.gone = true
  verifying : course.leg = .verifying → course.reaped = true
  threw : course.leg = .threw → course.reaped = true
  finished : ∀ outcome, course.leg = .finished outcome → course.born = true →
    course.reaped = true ∨ course.gone = true ∧ course.released = false

/-- The course could only come here through a cleanup of the group. -/
@[grind] def owesCleanup (course : Course) : Bool :=
  course.reaped || course.complete || course.leg == .checking || course.leg == .lastPass

/-- The course could only come here by killing the child. -/
@[grind] def owesKill (course : Course) : Bool :=
  match course.leg with
  | .abandoning => true
  | .finished _ => course.born && !course.reaped
  | _ => false

section Steps

variable {system : System} {move : Move} {next : Course}

theorem Kept.step (kept : system.course.Kept) (grows : growsUntilReaped system move = true)
    (stepped : CourseStep system move system.course next) : next.Kept where
  admission := by
    have := kept.admission
    cases stepped <;> grind -ring -linarith
  early := by
    have := kept.early
    cases stepped <;> grind -ring -linarith
  reaped := by
    have := kept.reaped
    have := kept.early
    cases stepped <;> grind -ring -linarith
  verifying := by
    have := kept.verifying
    cases stepped <;> grind -ring -linarith
  threw := by
    have := kept.threw
    cases stepped with
    | throw leg throws =>
        intro _
        show system.locals.childReaped = true
        simpa [growsUntilReaped, throws] using grows
    | _ => grind -ring -linarith
  finished := by
    have := kept.finished
    have := kept.admission
    have := kept.early
    have := kept.verifying
    cases stepped <;> grind -ring -linarith

/-- The two ways out: by the reaping of the loop, or by the one before it. -/
theorem Kept.ways {course : Course} (kept : course.Kept)
    (left : course.leg = .threw ∨ ∃ outcome, course.leg = .finished outcome)
    (born : course.born = true) :
    course.reaped = true ∨
      course.owesKill = true ∧ course.gone = true ∧ course.released = false := by
  cases reaped : course.reaped with
  | true => exact .inl rfl
  | false =>
      rcases left with threw | ⟨outcome, finished⟩
      · have now := kept.threw threw
        simp [reaped] at now
      · rcases kept.finished outcome finished born with now | ⟨gone, withheld⟩
        · simp [reaped] at now
        · exact .inr ⟨by simp [owesKill, finished, born, reaped], gone, withheld⟩

theorem owesCleanup_of_step {course : Course} (stepped : CourseStep system move course next)
    (owed : next.owesCleanup = true) :
    course.owesCleanup = true ∨ course.cleans = true ∨ next.cleans = true := by
  cases stepped <;> grind -ring -linarith

theorem owesKill_of_step {course : Course} (kept : course.Kept)
    (stepped : CourseStep system move course next) (owed : next.owesKill = true) :
    course.owesKill = true ∨ course.kills = true ∨ next.kills = true := by
  have := kept.admission
  have := kept.verifying
  cases stepped <;> grind -ring -linarith

end Steps

end Course

/-- Without the program no process joins the group. -/
theorem deserted_move {table after : ProcessTable} {state : LeaderState} {given : ProcessMove}
    (deserted : table.Deserted) (idle : state ≠ .running)
    (moved : table.move state given = some after) : after.Deserted := by
  intro process present
  cases ProcessTable.move_spec moved with
  | @fork parent child forking forked =>
      rcases List.mem_append.mp present with old | new
      · exact deserted process old
      · rw [List.mem_singleton.mp new]
        exact deserted forking forked
  | leaderFork running => exact absurd running idle
  | exit | regroup =>
      rcases ProcessTable.mem_replace present with ⟨old, oldPresent, rfl⟩
      have outsider := deserted old oldPresent
      split <;> exact outsider
  | reap => exact deserted process (List.mem_of_mem_filter present)

section Runs

variable {config : Config} {token : Bool} {clock : Nat} {system next : System}

/-- Before the commit of `execveat` the child is the only process of its group. -/
def System.Alone (system : System) : Prop :=
  system.child.committed = false → system.table.Deserted

theorem alone_step {move : Move} (sound : system.GateSound) (alone : system.Alone)
    (taken : step config move system = some next) : next.Alone := by
  intro uncommittedAfter
  have uncommitted : system.gate.committed = false := by
    have stepped := gate_step taken
    have uncommittedAfter : next.gate.committed = false := uncommittedAfter
    generalize next.gate = after at stepped uncommittedAfter
    cases stepped with
    | fork _ _ admission => exact (sound.2.withheld (sound.1.early (.inl admission))).2.2
    | commit => cases uncommittedAfter
    | _ => exact uncommittedAfter
  rcases table_step taken with same | ⟨given, -, moved⟩
  · rw [same]
    exact alone uncommitted
  · refine deserted_move (alone uncommitted) ?_ moved
    intro running
    have program : system.child.phase = .program := by
      cases phase : system.child.phase <;>
        simp_all [System.leaderState, ChildPhase.leaderState]
    have committed := sound.2.program program
    simp [uncommitted] at committed

/-- What holds in every run in which strings grow until the child is reaped. -/
structure System.InCustody (system : System) : Prop where
  gate : system.GateSound
  kept : system.course.Kept
  alone : system.Alone

theorem inCustody_initial (config : Config) (token : Bool) (clock : Nat) :
    (config.initial token clock).InCustody where
  gate := gateSound_initial config token clock
  kept := by
    constructor <;> simp [System.course, Config.initial, Place.leg, Locals.initial]
  alone := fun _ => config.deserted

theorem inCustody_step {move : Move} (custody : system.InCustody)
    (grows : growsUntilReaped system move = true)
    (taken : step config move system = some next) : next.InCustody where
  gate := gateSound_step custody.gate taken
  kept := custody.kept.step grows (course_step custody.gate taken)
  alone := alone_step custody.gate custody.alone taken

/-- In every run in which no string of `drain_fd` fails to grow before the child is
reaped: when `execute_backend` has returned or an exception has left it after the fork,
the child has been waited for, and its group has been cleaned up, or the child was the
only process of the group and has been killed. -/
theorem leaves_no_child
    (run : Reaches (step config) growsUntilReaped (config.initial token clock) system)
    (left : system.place = .threw ∨ ∃ outcome, system.place = .returned outcome)
    (forked : system.child.phase ≠ .unborn) :
    system.child.phase = .reaped ∧
      (Passes (step config) growsUntilReaped (fun system => system.course.cleans)
          (config.initial token clock) system ∨
        Passes (step config) growsUntilReaped (fun system => system.course.kills)
          (config.initial token clock) system ∧ system.table.Deserted) := by
  have custody : system.InCustody := by
    refine run.preserves System.InCustody ?_ (inCustody_initial config token clock)
    intro system move next custody grows taken
    exact inCustody_step custody grows taken
  have legs : system.course.leg = .threw ∨ ∃ outcome, system.course.leg = .finished outcome := by
    rcases left with threw | ⟨outcome, returned⟩
    · exact .inl (by simp [System.course, threw, Place.leg])
    · exact .inr ⟨outcome, by simp [System.course, returned, Place.leg]⟩
  rcases custody.kept.ways legs (by simpa [System.course] using forked) with
    reaped | ⟨owed, gone, withheld⟩
  · refine ⟨by simpa [System.course] using custody.kept.reaped reaped, .inl ?_⟩
    refine run.passes System.GateSound (fun system => system.course.owesCleanup)
      (fun system => system.course.cleans)
      (fun _ _ _ sound _ taken => gateSound_step sound taken) ?_
      (gateSound_initial config token clock) rfl (by simp [Course.owesCleanup, reaped])
    intro system move next sound taken owed
    exact Course.owesCleanup_of_step (course_step sound taken) owed
  · refine ⟨by simpa [System.course] using gone, .inr ⟨?_, ?_⟩⟩
    · refine run.passes System.InCustody (fun system => system.course.owesKill)
        (fun system => system.course.kills)
        (fun _ _ _ custody grows taken => inCustody_step custody grows taken) ?_
        (inCustody_initial config token clock) rfl owed
      intro system move next custody taken owed
      exact Course.owesKill_of_step custody.kept (course_step custody.gate taken) owed
    · exact custody.alone (custody.gate.2.withheld withheld).2.2

end Runs

/-- The start is released and the program runs. -/
def runningProgram : List Move :=
  supervised 9 ++ advanced 6 ++ supervised 24 ++ advanced 3

/-- More than a string holds without memory of its own. -/
def longOutput : List UInt8 := List.replicate 64 65

/-- A descendant writes after the child has been reaped, and its output cannot be stored:
the exception leaves no child behind. -/
theorem leaves_no_child_late :
    ∃ system, Reaches (step (Config.plain false 0)) growsUntilReaped
        ((Config.plain false 0).initial false 0) system ∧
      system.place = .threw ∧ system.child.phase = .reaped := by
  have played : (replay (step (Config.plain false 0)) growsUntilReaped
      (runningProgram ++ [.child (.exit 0)] ++ supervised 23 ++
        [.output (.write longOutput), .supervisor .exhausted])
      ((Config.plain false 0).initial false 0)).any
      (fun system => system.place == .threw && system.child.phase != .unborn) = true := by
    decide
  rcases exists_reached played with ⟨system, run, test⟩
  simp only [Bool.and_eq_true, beq_iff_eq, bne_iff_ne] at test
  exact ⟨system, run, test.1, (leaves_no_child run (.inl test.1) test.2).1⟩

/-- The program writes, and the supervisor cannot store the bytes: the exception leaves the
function while the program runs, unreaped and without any cleanup. -/
theorem leaves_running_child :
    ∃ system, Reaches (step (Config.plain false 0)) unrestricted
        ((Config.plain false 0).initial false 0) system ∧
      system.place = .threw ∧ system.child.phase = .program ∧
      system.locals.childReaped = false ∧ system.locals.cleanupComplete = false ∧
      system.locals.cleanupFailed = false := by
  have played : (replay (step (Config.plain false 0)) unrestricted
      (runningProgram ++ [.output (.write longOutput)] ++ supervised 6 ++
        [.supervisor .exhausted])
      ((Config.plain false 0).initial false 0)).any
      (fun system => system.place == .threw && system.child.phase == .program &&
        !system.locals.childReaped && !system.locals.cleanupComplete &&
        !system.locals.cleanupFailed) = true := by
    decide
  rcases exists_reached played with ⟨system, run, test⟩
  simp only [Bool.and_eq_true, beq_iff_eq, Bool.not_eq_true', and_assoc] at test
  exact ⟨system, run, test⟩

end PkgexecLinux.Supervisor
